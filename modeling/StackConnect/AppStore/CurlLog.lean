import StackConnect.AppStore.CustomerReviews
import StackConnect.Rust.Ascii
import StackConnect.Rust.Utf8
import StackConnect.Serde.Ink
import StackConnect.Shell.Quoting

set_option autoImplicit false

namespace StackConnect

open Rust Serde Shell

-- The part of serde_json the log relies on, for values without fractions.
structure SerdeText where
  fromSlice : List UInt8 → Option Json
  toVec : Json → List UInt8
  toStringPretty : Json → Option String
  compact : ∀ json, json.Whole → toVec json = asBytes (String.ofList (json.text none))
  pretty : ∀ json, json.Whole → toStringPretty json = some (String.ofList (json.text (some 0)))

def SerdeText.writing (json : Json) : SerdeText where
  fromSlice bytes := if bytes = asBytes (String.ofList (json.text none)) then some json else none
  toVec json := asBytes (String.ofList (json.text none))
  toStringPretty json := some (String.ofList (json.text (some 0)))
  compact _ _ := rfl
  pretty _ _ := rfl

-- `http::Method`.
structure HttpMethod where
  name : String
  notEmpty : name.toList ≠ []
  token : ∀ char ∈ name.toList, isTokenChar char = true

def visible (byte : UInt8) : Bool := (32 ≤ byte && byte < 127) || byte == 9

-- `http::HeaderValue`: bytes from 128 on are allowed in it and are not text.
structure HeaderValue where
  bytes : List UInt8
  legal : ∀ byte ∈ bytes, visible byte = true ∨ 0x80 ≤ byte

def HeaderValue.text (value : HeaderValue) : String := String.ofList (value.bytes.map asciiChar)

-- The part of the http crate the log relies on: `HeaderValue::to_str`, which
-- gives a value of visible bytes as text.
structure HttpCrate where
  toStr : HeaderValue → Option String
  visibleText : ∀ value, value.bytes.all visible = true → toStr value = some value.text

def HttpCrate.plain : HttpCrate where
  toStr value := if value.bytes.all visible then some value.text else none
  visibleText _ shown := if_pos shown

-- `reqwest::Request`. A body that is not held as bytes counts as none.
structure HttpRequest where
  method : HttpMethod
  url : String
  headers : List (String × HeaderValue)
  body : Option (List UInt8)

def prettyJson (serde : SerdeText) (bytes : List UInt8) : String :=
  ((serde.fromSlice bytes).bind serde.toStringPretty).getD (fromUtf8Lossy bytes)

def headerArgument (http : HttpCrate) (header : String × HeaderValue) : String :=
  " \\\n  -H '" ++ header.1 ++ ": " ++ (http.toStr header.2).getD "<non-utf8>" ++ "'"

def bodyArgument (serde : SerdeText) : Option (List UInt8) → String
  | some (byte :: rest) => " \\\n  -d '" ++ prettyJson serde (byte :: rest) ++ "'"
  | _ => ""

def curlCommand (http : HttpCrate) (serde : SerdeText) (request : HttpRequest) : String :=
  "curl -X " ++ request.method.name ++ " '" ++ request.url ++ "'" ++
    String.join (request.headers.map (headerArgument http)) ++ bodyArgument serde request.body

def requestLabel : String := "[RustCore] → request\n→ "

def renderCurl (http : HttpCrate) (serde : SerdeText) (request : HttpRequest) : String := requestLabel ++ curlCommand http serde request

-- A `serde_json::Value`, as the client hands it to `json`.
structure BodyValue where
  json : Json
  whole : json.Whole
  sorted : json.toValue = json

-- The value `json!` makes of what it is given.
def BodyValue.ofJson (json : Json) (whole : json.Whole) : BodyValue :=
  ⟨json.toValue, to_value_whole json whole, to_value_fixed json⟩

structure SentRequest where
  method : HttpMethod
  url : String
  headers : List (String × HeaderValue)
  body : Option BodyValue

def SentRequest.build (serde : SerdeText) (request : SentRequest) : HttpRequest :=
  ⟨request.method, request.url, request.headers, request.body.map fun body => serde.toVec body.json⟩

def headerLine (header : String × HeaderValue) : String := header.1 ++ ": " ++ header.2.text

def SentRequest.arguments (request : SentRequest) (data : List String) : List String :=
  ["curl", "-X", request.method.name, request.url] ++
    (request.headers.flatMap fun header => ["-H", headerLine header]) ++ data.flatMap fun text => ["-d", text]

def DataFor : Option BodyValue → List String → Prop
  | none, data => data = []
  | some body, data => ∃ text : String, data = [text] ∧ ParsesTo text.toList body.json

def Repeats (http : HttpCrate) (serde : SerdeText) (request : SentRequest) : Prop :=
  ∃ command data, renderCurl http serde (request.build serde) = requestLabel ++ command ∧ DataFor request.body data ∧
    shellWords command = some (request.arguments data)

def HttpMethod.Bare (method : HttpMethod) : Prop :=
  (∀ char ∈ method.name.toList, plain char = true) ∧ ∀ char ∈ method.name.toList.head?, leading char = false

structure Unquoted (request : SentRequest) : Prop where
  method : request.method.Bare
  url : '\'' ∉ request.url.toList
  headers : ∀ header ∈ request.headers, '\'' ∉ header.1.toList ∧ '\'' ∉ header.2.text.toList
  body : ∀ body ∈ request.body, ∀ value ∈ body.json.strings, '\'' ∉ value.toList

variable (http : HttpCrate)

theorem render_command (serde : SerdeText) (request : HttpRequest) (command : String) :
    renderCurl http serde request = requestLabel ++ command ↔ command = curlCommand http serde request := by
  rw [renderCurl]
  constructor
  · intro same
    have chars := congrArg String.toList same
    rw [String.toList_append, String.toList_append] at chars
    exact (String.toList_injective (List.append_cancel_left chars)).symm
  · rintro rfl
    rfl

def curlOpening : List Char := ['c', 'u', 'r', 'l', ' ', '-', 'X', ' ']

def headerPiece (header : String × HeaderValue) : Piece := ⟨'H', (headerLine header).toList, (headerLine header).toList⟩

theorem header_to_str (value : HeaderValue) (ascii : IsAscii value.bytes) : http.toStr value = some value.text := by
  apply http.visibleText
  rw [List.all_eq_true]
  intro byte member
  cases value.legal byte member with
  | inl shown => exact shown
  | inr high => exact absurd (ascii byte member) (UInt8.not_lt.mpr high)

theorem header_quoted (header : String × HeaderValue) (ascii : IsAscii header.2.bytes) :
    (headerArgument http header).toList = (headerPiece header).quoted := by
  rw [headerArgument, header_to_str http header.2 ascii]
  simp only [String.toList_append, Option.getD_some, Piece.quoted, headerPiece, headerLine]
  simp

theorem headers_quoted (headers : List (String × HeaderValue)) (ascii : ∀ header ∈ headers, IsAscii header.2.bytes) :
    (String.join (headers.map (headerArgument http))).toList = (headers.map headerPiece).flatMap Piece.quoted := by
  rw [String.toList_join, List.flatMap_map, List.flatMap_map]
  exact List.flatMap_congr fun header member => header_quoted http header (ascii header member)

theorem inked_shell : Inked inked := ⟨rfl, rfl, rfl⟩

theorem token_unquotes (char : Char) (token : isTokenChar char = true) : unquotes char = false := by
  by_contra opens
  have listed : char ∈ [' ', '\t', '"', '\\'] := by
    simp [unquotes, isBlank] at opens
    simp
    tauto
  have table : [' ', '\t', '"', '\\'].all (fun other => !isTokenChar other) = true := by decide
  have outside := List.all_eq_true.mp table char listed
  rw [token] at outside
  cases outside

theorem curl_words_iff (method : HttpMethod) (url : List Char) (pieces : List Piece)
    (fits : ∀ piece ∈ pieces, piece.Fits inked)
    (command : String) (words : List String)
    (text : command.toList = curlOpening ++ (method.name.toList ++ ' ' :: '\'' :: (url ++ closingText pieces)))
    (same : words.map String.toList =
      ['c', 'u', 'r', 'l'] :: ['-', 'X'] :: method.name.toList :: url :: pieces.flatMap Piece.words) :
    shellWords command = some words ↔
      method.Bare ∧ '\'' ∉ url ∧ ∀ piece ∈ pieces, piece.shown = piece.word ∧ '\'' ∉ piece.shown := by
  have opens : scan (.bare false) curlOpening =
      some (.bare false, spelled ['c', 'u', 'r', 'l'] ++ .stop :: (spelled ['-', 'X'] ++ [.stop])) := rfl
  have read : written (words.map String.toList) =
      (spelled ['c', 'u', 'r', 'l'] ++ .stop :: (spelled ['-', 'X'] ++ [.stop])) ++
        (spelled method.name.toList ++ .stop :: (spelled url ++ closingRead pieces)) := by
    rw [same, written_cons, written_cons, written_cons, written_cons, closing_read]
    rfl
  rw [shell_words_iff, text, read, symbols_after _ _ _ _ _ _ opens, HttpMethod.Bare]
  have tokens := method.token
  cases name : method.name.toList with
  | nil => exact absurd name method.notEmpty
  | cons char word =>
      rw [name] at tokens
      have apart : ∀ other ∈ char :: word, unquotes other = false :=
        fun other member => token_unquotes other (tokens other member)
      have exactly := words_exact_iff inked inked_shell char word apart pieces fits url
      rw [List.cons_append, List.head?_cons]
      simp only [Option.mem_some_iff, forall_eq']
      rw [← exactly]
      constructor
      · rintro ⟨later, found, parts⟩
        rw [List.append_cancel_left parts]
        exact found
      · intro found
        exact ⟨_, found, rfl⟩

theorem pretty_json_text (serde : SerdeText) (body : BodyValue)
    (reads : ∀ json, serde.fromSlice (serde.toVec body.json) = some json → json = body.json) :
    ∃ layout, prettyJson serde (serde.toVec body.json) = String.ofList (body.json.text layout) := by
  rw [prettyJson]
  cases parsed : serde.fromSlice (serde.toVec body.json) with
  | none =>
      refine ⟨none, ?_⟩
      rw [Option.bind_none, Option.getD_none, serde.compact body.json body.whole, from_utf8_lossy_as_bytes]
  | some json =>
      refine ⟨some 0, ?_⟩
      rw [Option.bind_some, reads json parsed, serde.pretty body.json body.whole, Option.getD_some]

theorem body_quoted (serde : SerdeText) (body : BodyValue) (layout : Layout) (word : List Char)
    (shown : prettyJson serde (serde.toVec body.json) = String.ofList (body.json.text layout)) :
    (bodyArgument serde (some (serde.toVec body.json))).toList = (Piece.mk 'd' (body.json.text layout) word).quoted := by
  have bytes : serde.toVec body.json ≠ [] := by
    intro empty
    rw [serde.compact body.json body.whole] at empty
    have back := from_utf8_lossy_as_bytes (String.ofList (body.json.text none))
    rw [empty] at back
    have chars := congrArg String.toList back
    rw [String.toList_ofList] at chars
    exact text_ne_nil none body.json body.whole chars.symm
  cases split : serde.toVec body.json with
  | nil => exact absurd split bytes
  | cons byte rest =>
      rw [split] at shown
      rw [bodyArgument, shown]
      simp [String.toList_append, Piece.quoted]

theorem headers_fit (headers : List (String × HeaderValue)) : ∀ piece ∈ headers.map headerPiece, piece.Fits inked := by
  intro piece member
  obtain ⟨header, _, rfl⟩ := List.mem_map.mp member
  exact ⟨rfl, Nat.le_refl _⟩

theorem headers_free (headers : List (String × HeaderValue)) :
    (∀ piece ∈ headers.map headerPiece, piece.shown = piece.word ∧ '\'' ∉ piece.shown) ↔
      ∀ header ∈ headers, '\'' ∉ header.1.toList ∧ '\'' ∉ header.2.text.toList := by
  rw [List.forall_mem_map]
  refine forall_congr' fun header => forall_congr' fun _ => ?_
  simp [headerPiece, headerLine]

theorem command_text (serde : SerdeText) (request : HttpRequest)
    (ascii : ∀ header ∈ request.headers, IsAscii header.2.bytes) (extra : List Piece)
    (quoted : (bodyArgument serde request.body).toList = extra.flatMap Piece.quoted) :
    (curlCommand http serde request).toList = curlOpening ++ (request.method.name.toList ++
      ' ' :: '\'' :: (request.url.toList ++ closingText (request.headers.map headerPiece ++ extra))) := by
  have headers := headers_quoted http request.headers ascii
  rw [closing_text, List.flatMap_append, ← headers, ← quoted, curlCommand]
  simp [String.toList_append, curlOpening]

theorem arguments_text (request : SentRequest) (data : List String) (extra : List Piece)
    (same : (data.flatMap fun text => ["-d", text]).map String.toList = extra.flatMap Piece.words) :
    (request.arguments data).map String.toList = ['c', 'u', 'r', 'l'] :: ['-', 'X'] :: request.method.name.toList ::
      request.url.toList :: (request.headers.map headerPiece ++ extra).flatMap Piece.words := by
  have headers : (request.headers.flatMap fun header => ["-H", headerLine header]).map String.toList =
      (request.headers.map headerPiece).flatMap Piece.words := by
    rw [List.map_flatMap, List.flatMap_map]
    rfl
  rw [SentRequest.arguments, List.map_append, List.map_append, headers, same, List.flatMap_append]
  rfl

theorem command_words_iff (serde : SerdeText) (request : SentRequest)
    (ascii : ∀ header ∈ request.headers, IsAscii header.2.bytes) (data : List String) (extra : List Piece)
    (quoted : (bodyArgument serde (request.build serde).body).toList = extra.flatMap Piece.quoted)
    (same : (data.flatMap fun text => ["-d", text]).map String.toList = extra.flatMap Piece.words)
    (fits : ∀ piece ∈ extra, piece.Fits inked) :
    shellWords (curlCommand http serde (request.build serde)) = some (request.arguments data) ↔
      (request.method.Bare ∧ '\'' ∉ request.url.toList ∧
        ∀ header ∈ request.headers, '\'' ∉ header.1.toList ∧ '\'' ∉ header.2.text.toList) ∧
      ∀ piece ∈ extra, piece.shown = piece.word ∧ '\'' ∉ piece.shown := by
  have allFit : ∀ piece ∈ request.headers.map headerPiece ++ extra, piece.Fits inked :=
    List.forall_mem_append.mpr ⟨headers_fit request.headers, fits⟩
  have text := command_text http serde (request.build serde) ascii extra quoted
  have words := arguments_text request data extra same
  rw [curl_words_iff request.method request.url.toList _ allFit _ _ text words, List.forall_mem_append, headers_free]
  constructor
  · rintro ⟨method, url, headers, body⟩
    exact ⟨⟨method, url, headers⟩, body⟩
  · rintro ⟨⟨method, url, headers⟩, body⟩
    exact ⟨method, url, headers, body⟩

theorem bodiless_words_iff (serde : SerdeText) (request : SentRequest)
    (ascii : ∀ header ∈ request.headers, IsAscii header.2.bytes) (bodiless : request.body = none) :
    shellWords (curlCommand http serde (request.build serde)) = some (request.arguments []) ↔ Unquoted request := by
  have quoted : (bodyArgument serde (request.build serde).body).toList = [] := by
    rw [SentRequest.build, bodiless]
    rfl
  rw [command_words_iff http serde request ascii [] [] quoted rfl (fun _ none => absurd none List.not_mem_nil)]
  constructor
  · rintro ⟨⟨method, url, headers⟩, _⟩
    refine ⟨method, url, headers, ?_⟩
    rw [bodiless]
    exact fun _ none => absurd none (Option.not_mem_none _)
  · rintro ⟨method, url, headers, _⟩
    exact ⟨⟨method, url, headers⟩, fun _ none => absurd none List.not_mem_nil⟩

theorem body_words_iff (serde : SerdeText) (request : SentRequest)
    (ascii : ∀ header ∈ request.headers, IsAscii header.2.bytes) (body : BodyValue) (sent : request.body = some body)
    (layout : Layout) (shown : prettyJson serde (serde.toVec body.json) = String.ofList (body.json.text layout))
    (text : String) (parses : ParsesTo text.toList body.json) :
    shellWords (curlCommand http serde (request.build serde)) = some (request.arguments [text]) ↔
      Unquoted request ∧ body.json.text layout = text.toList := by
  have quoted : (bodyArgument serde (request.build serde).body).toList =
      [Piece.mk 'd' (body.json.text layout) text.toList].flatMap Piece.quoted := by
    rw [SentRequest.build, sent, List.flatMap_singleton]
    exact body_quoted serde body layout text.toList shown
  have fits : ∀ piece ∈ [Piece.mk 'd' (body.json.text layout) text.toList], piece.Fits inked :=
    List.forall_mem_singleton.mpr ⟨rfl, parses_ink layout text.toList body.json parses⟩
  rw [command_words_iff http serde request ascii [text] _ quoted rfl fits, List.forall_mem_singleton,
    text_apostrophe layout body.json body.whole]
  constructor
  · rintro ⟨⟨method, url, headers⟩, same, free⟩
    refine ⟨⟨method, url, headers, ?_⟩, same⟩
    intro other member value listed inside
    rw [sent, Option.mem_some_iff] at member
    exact free ⟨value, member ▸ listed, inside⟩
  · rintro ⟨unquoted, same⟩
    refine ⟨⟨unquoted.method, unquoted.url, unquoted.headers⟩, same, ?_⟩
    rintro ⟨value, listed, inside⟩
    exact unquoted.body body sent value listed inside

theorem curl_repeats_iff (serde : SerdeText) (request : SentRequest)
    (ascii : ∀ header ∈ request.headers, IsAscii header.2.bytes)
    (reads : ∀ body ∈ request.body, ∀ json, serde.fromSlice (serde.toVec body.json) = some json → json = body.json) :
    Repeats http serde request ↔ Unquoted request := by
  have repeats : Repeats http serde request ↔ ∃ data, DataFor request.body data ∧
      shellWords (curlCommand http serde (request.build serde)) = some (request.arguments data) := by
    rw [Repeats]
    simp only [render_command]
    constructor
    · rintro ⟨_, data, rfl, means, words⟩
      exact ⟨data, means, words⟩
    · rintro ⟨data, means, words⟩
      exact ⟨_, data, rfl, means, words⟩
  rw [repeats]
  cases sent : request.body with
  | none =>
      rw [← bodiless_words_iff http serde request ascii sent]
      constructor
      · rintro ⟨data, rfl, words⟩
        exact words
      · intro words
        exact ⟨[], rfl, words⟩
  | some body =>
      obtain ⟨layout, shown⟩ := pretty_json_text serde body (reads body sent)
      constructor
      · rintro ⟨_, ⟨text, rfl, parses⟩, words⟩
        exact ((body_words_iff http serde request ascii body sent layout shown text parses).mp words).1
      · intro unquoted
        have spelled : (String.ofList (body.json.text layout)).toList = body.json.text layout := String.toList_ofList
        have parses : ParsesTo (String.ofList (body.json.text layout)).toList body.json := by
          rw [spelled]
          exact text_parses layout body.json body.whole body.sorted
        refine ⟨_, ⟨_, rfl, parses⟩, ?_⟩
        exact (body_words_iff http serde request ascii body sent layout shown _ parses).mpr ⟨unquoted, spelled.symm⟩

def post : HttpMethod := ⟨"POST", by decide, List.all_eq_true.mp (by decide)⟩

def textHeader (name text : String) (shown : (asBytes text).all visible = true) : String × HeaderValue :=
  (name, ⟨asBytes text, fun byte member => .inl (List.all_eq_true.mp shown byte member)⟩)

def replyBody (text : String) : BodyValue :=
  .ofJson (createBody "customerReviewResponses" [("responseBody", .str text)] [("review", linkTo "customerReviews" "R1")])
    (by trivial)

def reply (text : String) : SentRequest where
  method := post
  url := "https://api.appstoreconnect.apple.com/v1/customerReviewResponses"
  headers :=
    [textHeader "authorization" "Bearer token" (by decide), textHeader "content-type" "application/json" (by decide)]
  body := some (replyBody text)

def writingReply (text : String) : SerdeText := .writing (replyBody text).json

theorem reply_ascii (text : String) : ∀ header ∈ (reply text).headers, IsAscii header.2.bytes := by
  rw [reply, List.forall_mem_cons, List.forall_mem_singleton]
  decide

theorem reply_reads (text : String) : ∀ body ∈ (reply text).body, ∀ json,
    (writingReply text).fromSlice ((writingReply text).toVec body.json) = some json → json = body.json := by
  rintro _ ⟨⟩ json read
  simp only [writingReply, SerdeText.writing, if_pos] at read
  exact (Option.some.inj read).symm

theorem reply_shown (text : String) : prettyJson (writingReply text) ((writingReply text).toVec (replyBody text).json) =
    String.ofList ((replyBody text).json.text (some 0)) := by
  simp only [prettyJson, writingReply, SerdeText.writing, if_pos, Option.bind_some, Option.getD_some]

theorem reply_text (text : String) : (curlCommand .plain (writingReply text) ((reply text).build (writingReply text))).toList =
    curlOpening ++ (post.name.toList ++ ' ' :: '\'' :: ((reply text).url.toList ++
      closingText ((reply text).headers.map headerPiece ++ [⟨'d', (replyBody text).json.text (some 0), []⟩]))) := by
  have quoted := body_quoted (writingReply text) (replyBody text) (some 0) [] (reply_shown text)
  refine command_text _ _ _ (reply_ascii text) _ ?_
  rw [List.flatMap_singleton]
  exact quoted

def thanks : String := "\"Dark mode\" is in 2.0;\nthank you & enjoy!"

theorem thanks_repeated : Repeats .plain (writingReply thanks) (reply thanks) := by
  refine (curl_repeats_iff _ _ _ (reply_ascii thanks) (reply_reads thanks)).mpr ⟨?_, by decide, ?_, ?_⟩
  · refine ⟨List.all_eq_true.mp (by decide), ?_⟩
    rintro _ ⟨⟩
    rfl
  · rw [reply, List.forall_mem_cons, List.forall_mem_singleton]
    decide
  · rintro _ ⟨⟩
    exact List.forall_mem_cons.mpr (by decide)

def news : String := "It's fixed"

set_option maxRecDepth 20000 in
theorem apostrophe_not_repeated :
    (∀ header ∈ (reply news).headers, IsAscii header.2.bytes) ∧
    (∀ body ∈ (reply news).body, ∀ json,
      (writingReply news).fromSlice ((writingReply news).toVec body.json) = some json → json = body.json) ∧
    shellWords (curlCommand .plain (writingReply news) ((reply news).build (writingReply news))) = none ∧
    ¬Repeats .plain (writingReply news) (reply news) := by
  have lost : shellWords (curlCommand .plain (writingReply news) ((reply news).build (writingReply news))) = none := by
    have unread : symbols (.bare false) (curlOpening ++ (post.name.toList ++ ' ' :: '\'' :: ((reply news).url.toList ++
        closingText ((reply news).headers.map headerPiece ++ [⟨'d', (replyBody news).json.text (some 0), []⟩])))) =
          none := by decide
    rw [shellWords, reply_text, unread]
    rfl
  refine ⟨reply_ascii news, reply_reads news, lost, ?_⟩
  rintro ⟨command, data, label, _, words⟩
  rw [(render_command _ _ _ _).mp label, lost] at words
  cases words

end StackConnect
