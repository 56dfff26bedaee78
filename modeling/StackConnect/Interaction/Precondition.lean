import StackConnect.Interaction.Loop

set_option autoImplicit false

namespace Interaction

variable {Q : Type} {A : Q → Type} {ε α β σ ι S : Type}

-- Before every query the history so far must allow it, and the result is
-- judged against the history at that point. Being cut promises nothing.
def wp (allowed : List (Event A) → Q → Prop) : Prog Q A ε α → (Except ε α → List (Event A) → Prop) →
    List (Event A) → Prop
  | .done result, post, past => post result past
  | .cut, _, _ => True
  | .ask query next, post, past =>
      allowed past query ∧ ∀ answer, wp allowed (next answer) post (past ++ [⟨query, answer⟩])

def whenOk (next : α → List (Event A) → Prop) (post : ε → List (Event A) → Prop) :
    Except ε α → List (Event A) → Prop
  | .ok value, past => next value past
  | .error failure, past => post failure past

@[simp] theorem when_ok_ok (next : α → List (Event A) → Prop) (post : ε → List (Event A) → Prop) (value : α)
    (past : List (Event A)) : whenOk next post (.ok value) past = next value past := rfl
@[simp] theorem when_ok_error (next : α → List (Event A) → Prop) (post : ε → List (Event A) → Prop) (failure : ε)
    (past : List (Event A)) : whenOk next post (.error failure) past = post failure past := rfl

variable (allowed : List (Event A) → Q → Prop)

@[simp] theorem wp_done (result : Except ε α) (post : Except ε α → List (Event A) → Prop) (past : List (Event A)) :
    wp allowed (.done result) post past = post result past := rfl

theorem wp_mono (program : Prog Q A ε α) (strong weak : Except ε α → List (Event A) → Prop)
    (past : List (Event A)) (met : wp allowed program strong past)
    (weaker : ∀ result later, strong result (past ++ later) → weak result (past ++ later)) :
    wp allowed program weak past := by
  induction program generalizing past with
  | done result =>
      have here := weaker result [] (by rw [List.append_nil]; exact met)
      rwa [List.append_nil] at here
  | cut => trivial
  | ask query next ih =>
      refine ⟨met.1, fun answer => ih answer _ (met.2 answer) ?_⟩
      intro result later held
      rw [List.append_assoc] at held ⊢
      exact weaker result _ held

theorem wp_bind (program : Prog Q A ε α) (next : α → Prog Q A ε β) (post : Except ε β → List (Event A) → Prop)
    (past : List (Event A)) :
    wp allowed (program >>= next) post past ↔
      wp allowed program (whenOk (fun value => wp allowed (next value) post) (fun failure => post (.error failure))) past := by
  induction program generalizing past with
  | done result => cases result <;> exact Iff.rfl
  | cut => exact Iff.rfl
  | ask query answered ih => simp only [Prog.bind_ask, wp, ih]

theorem wp_attempt (program : Prog Q A ε α) (post : Except ε (Except ε α) → List (Event A) → Prop)
    (past : List (Event A)) :
    wp allowed (Prog.attempt program) post past ↔ wp allowed program (fun result => post (.ok result)) past := by
  induction program generalizing past with
  | done result => exact Iff.rfl
  | cut => exact Iff.rfl
  | ask query answered ih => simp only [Prog.attempt_ask, wp, ih]

theorem wp_while_some (body : σ → ι → Prog Q A ε (σ × Option ι)) (post : Except ε σ → List (Event A) → Prop)
    (inv : σ → Option ι → List (Event A) → Prop)
    (round : ∀ kept item past, inv kept (some item) past →
      wp allowed (body kept item) (whenOk (fun step => inv step.1 step.2) (fun failure => post (.error failure))) past)
    (leave : ∀ kept past, inv kept none past → post (.ok kept) past)
    (fuel : Nat) (kept : σ) (next : Option ι) (past : List (Event A)) (start : inv kept next past) :
    wp allowed (whileSome body fuel kept next) post past := by
  induction fuel generalizing kept next past with
  | zero =>
      cases next with
      | none => exact leave kept past start
      | some item => trivial
  | succ fuel ih =>
      cases next with
      | none => exact leave kept past start
      | some item =>
          rw [while_some_succ, wp_bind]
          apply wp_mono allowed _ _ _ _ (round kept item past start)
          intro result later held
          cases result with
          | ok step => exact ih step.1 step.2 _ held
          | error failure => exact held

theorem wp_fold (step : σ → β → Prog Q A ε σ) (post : Except ε σ → List (Event A) → Prop)
    (inv : σ → List β → List (Event A) → Prop)
    (round : ∀ kept item rest past, inv kept (item :: rest) past →
      wp allowed (step kept item) (whenOk (fun reached => inv reached rest) (fun failure => post (.error failure))) past)
    (leave : ∀ kept past, inv kept [] past → post (.ok kept) past)
    (kept : σ) (items : List β) (past : List (Event A)) (start : inv kept items past) :
    wp allowed (items.foldlM step kept) post past := by
  induction items generalizing kept past with
  | nil => exact leave kept past start
  | cons item rest ih =>
      rw [List.foldlM_cons, wp_bind]
      apply wp_mono allowed _ _ _ _ (round kept item rest past start)
      intro result later held
      cases result with
      | ok reached => exact ih reached _ held
      | error failure => exact held

theorem wp_for_each (step : β → Prog Q A ε Unit) (post : Except ε Unit → List (Event A) → Prop)
    (inv : List β → List (Event A) → Prop)
    (round : ∀ item rest past, inv (item :: rest) past →
      wp allowed (step item) (whenOk (fun _ => inv rest) (fun failure => post (.error failure))) past)
    (leave : ∀ past, inv [] past → post (.ok ()) past)
    (items : List β) (past : List (Event A)) (start : inv items past) :
    wp allowed (items.forM step) post past := by
  induction items generalizing past with
  | nil => exact leave past start
  | cons item rest ih =>
      change wp allowed (step item >>= fun _ => rest.forM step) post past
      rw [wp_bind]
      apply wp_mono allowed _ _ _ _ (round item rest past start)
      intro result later held
      cases result with
      | ok value => exact ih _ held
      | error failure => exact held

theorem wp_sound (program : Prog Q A ε α) (post : Except ε α → List (Event A) → Prop) (past : List (Event A))
    (met : wp allowed program post past) (trace : List (Event A)) (outcome : Option (Except ε α))
    (run : Runs program trace outcome) :
    (∀ before event after, trace = before ++ event :: after → allowed (past ++ before) event.1) ∧
      ∀ result, outcome = some result → post result (past ++ trace) := by
  induction run generalizing past with
  | done result =>
      refine ⟨?_, ?_⟩
      · intro before event after split
        simp at split
      · intro value ended
        cases ended
        rw [List.append_nil]
        exact met
  | cut =>
      refine ⟨?_, ?_⟩
      · intro before event after split
        simp at split
      · intro value ended
        cases ended
  | ask query next answer rest outcome tail ih =>
      obtain ⟨asked, ended⟩ := ih _ (met.2 answer)
      refine ⟨?_, ?_⟩
      · intro before event after split
        cases before with
        | nil =>
            obtain ⟨rfl, rfl⟩ := List.cons.inj split
            rw [List.append_nil]
            exact met.1
        | cons first before =>
            obtain ⟨rfl, same⟩ := List.cons.inj split
            simpa only [List.append_assoc, List.singleton_append] using asked before event after same
      · intro result last
        simpa only [List.append_assoc, List.singleton_append] using ended result last

def Within (program : Prog Q A ε α) : Prop := ∀ past, wp allowed program (fun _ _ => True) past

theorem within_done (result : Except ε α) : Within allowed (.done result : Prog Q A ε α) := fun _ => trivial

theorem within_ask (query : Q) (next : A query → Prog Q A ε α) (may : ∀ past, allowed past query)
    (rest : ∀ answer, Within allowed (next answer)) : Within allowed (.ask query next) :=
  fun past => ⟨may past, fun answer => rest answer _⟩

theorem within_bind_wp (program : Prog Q A ε α) (next : α → Prog Q A ε β) (rest : ∀ value, Within allowed (next value))
    (post : Except ε α → List (Event A) → Prop) (past : List (Event A)) (first : wp allowed program post past) :
    wp allowed (program >>= next) (fun _ _ => True) past := by
  rw [wp_bind]
  apply wp_mono allowed program post _ past first
  intro result later _
  cases result with
  | ok value => exact rest value _
  | error failure => trivial

theorem within_bind (program : Prog Q A ε α) (next : α → Prog Q A ε β) (first : Within allowed program)
    (rest : ∀ value, Within allowed (next value)) : Within allowed (program >>= next) :=
  fun past => within_bind_wp allowed program next rest _ past (first past)

theorem within_attempt (program : Prog Q A ε α) (kept : Within allowed program) :
    Within allowed (Prog.attempt program) := fun past => (wp_attempt allowed program _ past).mpr (kept past)

theorem within_fold (step : σ → β → Prog Q A ε σ) (kept : ∀ reached item, Within allowed (step reached item))
    (items : List β) (start : σ) : Within allowed (items.foldlM step start) := by
  induction items generalizing start with
  | nil => exact within_done allowed _
  | cons item rest ih =>
      rw [List.foldlM_cons]
      exact within_bind allowed _ _ (kept start item) fun reached => ih reached

theorem within_sound (program : Prog Q A ε α) (kept : Within allowed program) (trace : List (Event A))
    (outcome : Option (Except ε α)) (run : Runs program trace outcome) (before after : List (Event A))
    (event : Event A) (split : trace = before ++ event :: after) : allowed before event.1 :=
  (wp_sound allowed program _ [] (kept []) trace outcome run).1 before event after split

end Interaction
