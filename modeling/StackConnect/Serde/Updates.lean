import StackConnect.Serde.Json

set_option autoImplicit false

namespace Serde

variable {α β γ : Type}

theorem occurrences_eq_nil (key : String) (members : List (String × Json)) :
    occurrences key members = [] ↔ key ∉ members.map Prod.fst := by
  constructor
  · intro empty inside
    obtain ⟨member, listed, rfl⟩ := List.mem_map.mp inside
    have found : member.2 ∈ occurrences member.1 members :=
      List.mem_map_of_mem (List.mem_filter.mpr ⟨listed, by simp⟩)
    rw [empty] at found
    cases found
  · exact occurrences_absent key members

theorem member_or_updated (key : String) (decode : Decoder α) (encode : α → Json) (arg old : Option α)
    (stored patch : List (String × Json)) (reads : ∀ value, option decode (encode value) = some (some value))
    (sent : occurrences key patch = (arg.map encode).toList)
    (before : memberOr key (option decode) none stored = some old) :
    memberOr key (option decode) none (overwrite stored patch) = some (arg.or old) := by
  rw [member_or_overwrite]
  cases arg with
  | none =>
      have absent : key ∉ patch.map Prod.fst := (occurrences_eq_nil key patch).mp sent
      rw [if_neg absent]
      exact before
  | some value =>
      have present : key ∈ patch.map Prod.fst := by
        by_contra absent
        rw [(occurrences_eq_nil key patch).mpr absent] at sent
        cases sent
      rw [if_pos present]
      exact member_or_printed key decode encode patch (some value) reads sent

-- Reading a record before and after a patch: where the first reading gives a
-- value, the second gives `change` of it.
def Updates (stored patch : List (String × Json)) (change : α → β) (before : Fields α) (after : Fields β) : Prop :=
  ∀ value source, before (.members stored) = some (value, source) →
    ∃ reached, after (.members (overwrite stored patch)) = some (change value, reached)

section Rules

variable {stored patch : List (String × Json)} {change : α → β} {key : String} {decode : Decoder γ}
  {next : Option γ → Fields α} {after : Option γ → Fields β}

theorem updates_pure (value : α) (changed : β) (same : change value = changed) :
    Updates stored patch change (pure value) (pure changed) := by
  intro read source shown
  cases shown
  subst same
  exact ⟨_, rfl⟩

theorem updates_field (revise : Option γ → Option γ)
    (rest : ∀ old, Updates stored patch change (next old) (after (revise old)))
    (revised : ∀ old, memberOr key (option decode) none stored = some old →
      memberOr key (option decode) none (overwrite stored patch) = some (revise old)) :
    Updates stored patch change (optional key decode >>= next) (optional key decode >>= after) := by
  intro value source shown
  rw [Serde.optional, defaulted_bind_members, Option.bind_eq_some_iff] at shown
  obtain ⟨old, before, later⟩ := shown
  obtain ⟨reached, last⟩ := rest old value source later
  refine ⟨reached, ?_⟩
  rw [Serde.optional, defaulted_bind_members, revised old before]
  exact last

theorem updates_sent (encode : γ → Json) (reads : ∀ value, option decode (encode value) = some (some value))
    (arg : Option γ) (rest : ∀ old, Updates stored patch change (next old) (after (arg.or old)))
    (sent : occurrences key patch = (arg.map encode).toList) :
    Updates stored patch change (optional key decode >>= next) (optional key decode >>= after) :=
  updates_field arg.or rest fun old before => member_or_updated key decode encode arg old stored patch reads sent before

theorem updates_kept (rest : ∀ old, Updates stored patch change (next old) (after old))
    (absent : occurrences key patch = []) :
    Updates stored patch change (optional key decode >>= next) (optional key decode >>= after) := by
  apply updates_field id rest
  intro old before
  rw [member_or_overwrite, if_neg ((occurrences_eq_nil key patch).mp absent)]
  exact before

end Rules

theorem updates_text {stored patch : List (String × Json)} {change : α → β} {key : String}
    {next : Option String → Fields α} {after : Option String → Fields β} (arg : Option String)
    (rest : ∀ old, Updates stored patch change (next old) (after (arg.or old)))
    (sent : occurrences key patch = (arg.map Json.str).toList) :
    Updates stored patch change (optional key string >>= next) (optional key string >>= after) :=
  updates_sent .str (fun _ => rfl) arg rest sent

theorem updates_flag {stored patch : List (String × Json)} {change : α → β} {key : String}
    {next : Option Bool → Fields α} {after : Option Bool → Fields β} (arg : Option Bool)
    (rest : ∀ old, Updates stored patch change (next old) (after (arg.or old)))
    (sent : occurrences key patch = (arg.map Json.bool).toList) :
    Updates stored patch change (optional key boolean >>= next) (optional key boolean >>= after) :=
  updates_sent .bool (fun _ => rfl) arg rest sent

theorem struct_updates (fields : Fields α) (stored patch : List (String × Json)) (revise : α → α)
    (updates : Updates stored patch revise fields fields) (value : α)
    (shown : struct fields (.obj stored) = some value) :
    struct fields (.obj (overwrite stored patch)) = some (revise value) := by
  rw [struct_obj] at shown ⊢
  obtain ⟨⟨read, source⟩, before, rfl⟩ := Option.map_eq_some_iff.mp shown
  obtain ⟨reached, after⟩ := updates read source before
  rw [after]
  rfl

end Serde
