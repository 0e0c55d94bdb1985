import Getupnet.Python.Text
import Getupnet.Relational.Selection
import Getupnet.Tools.Preloader.Sector

open interaction python relational

namespace getupnet.mikrotik_preloader.untyped

/-- A row of a reply as it is sent, in words with the name of a field and its text. -/
structure ReplyRow where
  words : List (String × String)
  nodup : (words.map Prod.fst).Nodup

def ReplyRow.text (field : String) (self : ReplyRow) : Option String := self.words.lookup field

/-- The row that the library makes of it, given how a text is decoded. -/
def ReplyRow.decoded (decode : String → Value) (self : ReplyRow) : Dict :=
  self.words.map fun word => (word.1, decode word.2)

/-- What the library does with a text: the words of a flag become truth values and the
numerals that an integer is written with that integer. Any other text stays as it is,
unless it is read as an integer as well (which of `010` and `+5` are depends on the
library's version), and that takes more than letters. -/
structure Decodes (decode : String → Value) : Prop where
  yes : ∀ text ∈ ["yes", "true"], decode text = .bool true
  no : ∀ text ∈ ["no", "false"], decode text = .bool false
  number : ∀ number : Int, decode (toString number) = .int number
  other : ∀ text ∉ ["yes", "true", "no", "false"], decode text = .str text ∨
    (∃ number, decode text = .int number) ∧ ∃ char ∈ text.toList, char.isAlpha = false

/-- A row meets the words of a call, of which `?field` asks for the text of the field. -/
def ReplyRow.meets (kwargs : Dict) (self : ReplyRow) : Bool :=
  kwargs.all fun entry =>
    match entry.1.toList, entry.2 with
    | '?' :: field, .str text => self.text (String.ofList field) == some text
    | _, _ => true

/-- A call asks for the text of a field. -/
def Call.queries (call : Call) : Bool := call.kwargs.any fun entry => entry.1.toList.head? == some '?'

/-- A router that answers queries, from its tables. -/
def answering_queries (decode : String → Value) (tables : String → List ReplyRow) :
    Unit → Call → Except Interruption (List Dict) × Unit :=
  fun _ call => (.ok (((tables call.path).filter (ReplyRow.meets call.kwargs)).map (ReplyRow.decoded decode)), ())

/-- A router with the same tables that does not know queries. -/
def rejecting_queries (text : String) (decode : String → Value) (tables : String → List ReplyRow) :
    Unit → Call → Except Interruption (List Dict) × Unit :=
  fun _ call =>
    if call.queries then (.error (.librouteros text), ())
    else (.ok ((tables call.path).map (ReplyRow.decoded decode)), ())

/-- What the comparison in `routeros_find` sees of a text, or where there is none. -/
def printed (repr : Value → String) (decode : String → Value) (text : Option String) : String :=
  str repr ((text.map decode).getD .none)

/-- The text of a field, if any, and the value do not come together or part by way of the
library and `str`. -/
def ReadsBack (decode : String → Value) (value : String) : Option String → Prop
  | none => value ≠ "None"
  | some text =>
    (text ∈ ["yes", "true"] → value ≠ text ∧ value ≠ "True") ∧
      (text ∈ ["no", "false"] → value ≠ text ∧ value ≠ "False") ∧
      ∀ number, decode text = .int number → (text = value ↔ toString number = value)

section

variable {repr : Value → String} {decode : String → Value} {text : String} {value field path : String}

theorem Decodes.cases (h : Decodes decode) (text : String) :
    text ∈ ["yes", "true"] ∧ decode text = .bool true ∨ text ∈ ["no", "false"] ∧ decode text = .bool false ∨
      (∃ number, decode text = .int number) ∨ decode text = .str text := by
  by_cases hyes : text ∈ ["yes", "true"]
  · exact .inl ⟨hyes, h.yes text hyes⟩
  by_cases hno : text ∈ ["no", "false"]
  · exact .inr (.inl ⟨hno, h.no text hno⟩)
  have hneither : text ∉ ["yes", "true", "no", "false"] := fun htext =>
    (@List.mem_append _ text ["yes", "true"] ["no", "false"]).mp htext |>.elim hyes hno
  obtain hstr | ⟨hint, -⟩ := h.other text hneither
  · exact .inr (.inr (.inr hstr))
  · exact .inr (.inr (.inl hint))

/-- A text of letters alone stays as it is. -/
theorem Decodes.letters (h : Decodes decode) (hletters : text.toList.all Char.isAlpha = true)
    (htext : text ∉ ["yes", "true", "no", "false"]) : decode text = .str text := by
  obtain hstr | ⟨-, char, hchar, hnot⟩ := h.other text htext
  · exact hstr
  · rw [List.all_eq_true.mp hletters char hchar] at hnot
    cases hnot

/-- What is printed is printed the same when it is read back. -/
theorem Decodes.printed_printed (h : Decodes decode) (text : Option String) :
    printed repr decode (some (printed repr decode text)) = printed repr decode text := by
  have hletters : ∀ word ∈ ["None", "True", "False"], printed repr decode (some word) = word := by
    intro word hword
    have hstr : decode word = .str word := by
      simp only [List.mem_cons, List.not_mem_nil, or_false] at hword
      obtain rfl | rfl | rfl := hword <;> exact h.letters (by decide) (by decide)
    rw [printed, Option.map_some, hstr]
    rfl
  cases text with
  | none => exact hletters "None" (by decide)
  | some text =>
    have hprinted : printed repr decode (some text) = str repr (decode text) := rfl
    obtain ⟨-, hbool⟩ | ⟨-, hbool⟩ | ⟨number, hint⟩ | hstr := h.cases text
    · rw [hprinted, hbool]
      exact hletters "True" (by decide)
    · rw [hprinted, hbool]
      exact hletters "False" (by decide)
    · rw [hprinted, hint]
      change str repr (decode (toString number)) = toString number
      rw [h.number number]
      rfl
    · rw [hprinted, hstr]
      exact hprinted.trans (congrArg (str repr) hstr)

theorem Decodes.not_flag (h : Decodes decode) (hdecode : ∀ truth, decode text ≠ .bool truth) :
    text ∉ ["yes", "true"] ∧ text ∉ ["no", "false"] :=
  ⟨fun hyes => hdecode true (h.yes text hyes), fun hno => hdecode false (h.no text hno)⟩

/-- Of a flag that is printed differently, the paths differ on its text and on what is printed. -/
theorem flag_iff {word : String} (hne : text ≠ word) :
    (word = value ↔ text = value) ↔ value ≠ text ∧ value ≠ word := by
  constructor
  · intro h
    refine ⟨fun hvalue => hne ?_, fun hvalue => hne ?_⟩
    · exact hvalue.symm.trans (h.mpr hvalue.symm).symm
    · exact (h.mp hvalue.symm).trans hvalue
  · rintro ⟨htext, hword⟩
    exact iff_of_false (fun h => hword h.symm) fun h => htext h.symm

/-- The comparison agrees with the query about a row exactly when its text reads back. -/
theorem Decodes.printed_iff (h : Decodes decode) (value : String) (text : Option String) :
    (printed repr decode text = value ↔ text = some value) ↔ ReadsBack decode value text := by
  cases text with
  | none =>
    have hprinted : printed repr decode none = "None" := rfl
    rw [hprinted, ReadsBack]
    simp [eq_comm]
  | some text =>
    have hprinted : printed repr decode (some text) = str repr (decode text) := rfl
    rw [hprinted, ReadsBack, Option.some_inj]
    obtain ⟨htext, hbool⟩ | ⟨htext, hbool⟩ | ⟨number, hint⟩ | hstr := h.cases text
    · have hother : text ∉ ["no", "false"] := by
        intro hno
        rw [h.no text hno] at hbool
        cases hbool
      have hne : text ≠ "True" := by
        rintro rfl
        revert htext
        decide
      simp only [hbool, hother, htext, true_imp_iff, false_imp_iff, reduceCtorEq, implies_true, and_true]
      exact flag_iff hne
    · have hother : text ∉ ["yes", "true"] := by
        intro hyes
        rw [h.yes text hyes] at hbool
        cases hbool
      have hne : text ≠ "False" := by
        rintro rfl
        revert htext
        decide
      simp only [hbool, hother, htext, true_imp_iff, false_imp_iff, true_and, reduceCtorEq, implies_true, and_true]
      exact flag_iff hne
    · obtain ⟨hyes, hno⟩ := h.not_flag fun truth hbool => nomatch hint.symm.trans hbool
      simp only [hint, hyes, hno, false_imp_iff, true_and, Value.int.injEq, forall_eq']
      exact Iff.comm
    · obtain ⟨hyes, hno⟩ := h.not_flag fun truth hbool => nomatch hstr.symm.trans hbool
      simp only [hstr, hyes, hno, false_imp_iff, true_and, reduceCtorEq, implies_true, iff_true]
      exact Iff.rfl

end

section

variable {repr : Value → String} {eq : Value → Value → Bool} {decode : String → Value} {field path value : String}
  {tables : String → List ReplyRow} {text : String}

theorem ReplyRow.field_of_decoded (decode : String → Value) (field : String) (row : ReplyRow) :
    field_of field (row.decoded decode) = ((row.text field).map decode).getD .none := by
  rw [field_of, ReplyRow.decoded, ReplyRow.text]
  congr 1
  induction row.words with
  | nil => rfl
  | cons word rest ih =>
    rw [List.map_cons, Dict.lookup_cons, List.lookup_cons, ih]
    by_cases hfield : field = word.1
    · rw [if_pos hfield, beq_iff_eq.mpr hfield]
      rfl
    · rw [if_neg hfield, beq_eq_false_iff_ne.mpr hfield]

theorem ReplyRow.meets_query (field value : String) (row : ReplyRow) :
    row.meets [("?" ++ field, .str value)] = (row.text field == some value) := by
  have hfield : ("?" ++ field).toList = '?' :: field.toList := by simp
  rw [ReplyRow.meets, List.all_cons, List.all_nil, Bool.and_true, hfield]
  change (row.text (String.ofList field.toList) == some value) = (row.text field == some value)
  rw [String.ofList_toList]

/-- The query path finds the rows with the text. -/
theorem routeros_find_query :
    (routeros_find ⟨str repr, eq⟩ path field (.str value)).exec (answering_queries decode tables) () =
      (.ok ((having (ReplyRow.text field) value (tables path)).map (ReplyRow.decoded decode)), ()) := by
  have hmeets : ReplyRow.meets [("?" ++ field, .str value)] = fun row => row.text field == some value :=
    funext (ReplyRow.meets_query field value)
  rw [routeros_find, Program.exec_attempt, api_exec, Program.exec_command, answering_queries, hmeets]
  rfl

/-- The fallback path finds the rows of which the value is printed. -/
theorem routeros_find_fallback_rows (hunknown : unknown_parameter text = true) :
    (routeros_find ⟨str repr, eq⟩ path field (.str value)).exec (rejecting_queries text decode tables) () =
      (.ok ((showing (ReplyRow.text field) (printed repr decode) value (tables path)).map
        (ReplyRow.decoded decode)), ()) := by
  have hqueries : Call.queries ⟨path, [("?" ++ field, .str value)]⟩ = true := by simp [Call.queries]
  have hlists : ¬ Call.queries ⟨path, []⟩ = true := Bool.false_ne_true
  have hfilter : ((tables path).map (ReplyRow.decoded decode)).filter
      (fun item => str repr (field_of field item) == value) =
        (showing (ReplyRow.text field) (printed repr decode) value (tables path)).map (ReplyRow.decoded decode) := by
    rw [List.filter_map, showing]
    congr 1
    refine List.filter_congr fun row _ => ?_
    rw [Function.comp_apply, ReplyRow.field_of_decoded, printed]
  rw [routeros_find, Program.exec_attempt, api_exec, Program.exec_command, rejecting_queries, if_pos hqueries]
  dsimp only
  rw [if_pos hunknown, Program.exec_bind, api_exec, Program.exec_command, rejecting_queries, if_neg hlists]
  exact congrArg (fun rows => (Except.ok rows, ())) hfilter

end

/-- On any tables, the fallback path returns what the query path returns exactly when the
text of each row reads back. The query compares texts on the router; the fallback compares
what is printed of the values that the library has made of them. -/
theorem routeros_find_fallback_iff (repr : Value → String) (eq : Value → Value → Bool) {decode : String → Value}
    (hdecode : Decodes decode) {text : String} (hunknown : unknown_parameter text = true)
    (tables : String → List ReplyRow) (path field value : String) :
    (routeros_find ⟨str repr, eq⟩ path field (.str value)).exec (rejecting_queries text decode tables) () =
        (routeros_find ⟨str repr, eq⟩ path field (.str value)).exec (answering_queries decode tables) () ↔
      ∀ row ∈ tables path, ReadsBack decode value (row.text field) := by
  rw [routeros_find_fallback_rows hunknown, routeros_find_query]
  simp only [Prod.mk.injEq, Except.ok.injEq, and_true]
  rw [map_showing_eq_iff _ hdecode.printed_printed]
  exact forall₂_congr fun row _ => hdecode.printed_iff value (row.text field)

/-- What the library does with flags, numerals and other texts. -/
def decode_word (text : String) : Value :=
  if text ∈ ["yes", "true"] then .bool true
  else if text ∈ ["no", "false"] then .bool false
  else match decimal text with
    | some number => if toString number = text then .int number else .str text
    | none => .str text

theorem decode_word_of_not_flag {text : String} (h : text ∉ ["yes", "true", "no", "false"]) :
    decode_word text =
      (decimal text).elim (.str text) fun number => if toString number = text then .int number else .str text := by
  have hyes : text ∉ ["yes", "true"] := fun htext => h (List.mem_append_left ["no", "false"] htext)
  have hno : text ∉ ["no", "false"] := fun htext => h (List.mem_append_right ["yes", "true"] htext)
  rw [decode_word, if_neg hyes, if_neg hno]
  cases decimal text <;> rfl

theorem decode_word_decodes : Decodes decode_word where
  yes text htext := if_pos htext
  no text htext := by
    have hyes := (by decide : ∀ text ∈ ["no", "false"], text ∉ ["yes", "true"]) text htext
    rw [decode_word, if_neg hyes, if_pos htext]
  number number := by
    have hdecimal := decimal_toString number
    have hflag : toString number ∉ ["yes", "true", "no", "false"] := by
      intro htext
      have hnone : ∀ text ∈ ["yes", "true", "no", "false"], decimal text = none := by decide +kernel
      rw [hnone _ htext] at hdecimal
      cases hdecimal
    rw [decode_word_of_not_flag hflag, hdecimal]
    exact if_pos rfl
  other text htext := by
    rw [decode_word_of_not_flag htext]
    cases hdecimal : decimal text with
    | none => exact .inl rfl
    | some number =>
      by_cases hnumeral : toString number = text
      · exact .inr ⟨⟨number, if_pos hnumeral⟩, exists_not_isAlpha_of_decimal hdecimal⟩
      · exact .inl (if_neg hnumeral)

def pool (name : String) : ReplyRow := ⟨[("name", name)], List.nodup_singleton "name"⟩

/-- Three pools, one of which has a flag for a name and one a number. -/
def pools (path : String) : List ReplyRow :=
  if path = "/ip/pool/print" then [pool "hs-pool", pool "yes", pool "10"] else []

@[simp] theorem pool_text (name : String) : (pool name).text "name" = some name := rfl

theorem decode_word_hs_pool : decode_word "hs-pool" = .str "hs-pool" := by
  have hdecimal : decimal "hs-pool" = none := by decide +kernel
  rw [decode_word_of_not_flag (by decide), hdecimal]
  rfl

theorem decode_word_number : decode_word "10" = .int 10 := decode_word_decodes.number 10

/-- `str` and `==` on the values of these tables. -/
def word_builtins : Builtins := ⟨str fun _ => "", fun _ _ => false⟩

theorem routeros_find_fallback_hs_pool :
    (routeros_find word_builtins "/ip/pool/print" "name" (.str "hs-pool")).exec
        (rejecting_queries "unknown parameter" decode_word pools) () =
      (routeros_find word_builtins "/ip/pool/print" "name" (.str "hs-pool")).exec
        (answering_queries decode_word pools) () := by
  have hunknown : unknown_parameter "unknown parameter" = true := by decide +kernel
  refine (routeros_find_fallback_iff _ _ decode_word_decodes hunknown pools _ _ _).mpr ?_
  have hletters : ReadsBack decode_word "hs-pool" (some "hs-pool") := by
    refine ⟨by decide, by decide, fun number hnumber => ?_⟩
    rw [decode_word_hs_pool] at hnumber
    cases hnumber
  have hflag : ReadsBack decode_word "hs-pool" (some "yes") := by
    refine ⟨by decide, by decide, fun number hnumber => ?_⟩
    rw [decode_word_decodes.yes "yes" (by decide)] at hnumber
    cases hnumber
  have hnumber : ReadsBack decode_word "hs-pool" (some "10") := by
    refine ⟨by decide, by decide, fun number hnumber => ?_⟩
    rw [decode_word_number] at hnumber
    cases hnumber
    decide +kernel
  exact List.forall_mem_cons.mpr ⟨hletters, List.forall_mem_cons.mpr ⟨hflag, List.forall_mem_singleton.mpr hnumber⟩⟩

/-- The pool with a flag for a name is found by a query, and not without one. -/
theorem routeros_find_fallback_misses_yes :
    Decodes decode_word ∧ unknown_parameter "unknown parameter" = true ∧
      (routeros_find word_builtins "/ip/pool/print" "name" (.str "yes")).exec
          (rejecting_queries "unknown parameter" decode_word pools) () = (.ok [], ()) ∧
      (routeros_find word_builtins "/ip/pool/print" "name" (.str "yes")).exec
          (answering_queries decode_word pools) () = (.ok [[("name", .bool true)]], ()) := by
  have hunknown : unknown_parameter "unknown parameter" = true := by decide +kernel
  have hyes : decode_word "yes" = .bool true := decode_word_decodes.yes "yes" (by decide)
  refine ⟨decode_word_decodes, hunknown, ?_, ?_⟩
  · have hnumeral : Int.repr 10 ≠ "yes" := by decide +kernel
    rw [word_builtins, routeros_find_fallback_rows hunknown]
    simp [showing, pools, printed, decode_word_hs_pool, hyes, decode_word_number, str, hnumeral]
  · rw [word_builtins, routeros_find_query]
    simp [having, pools, pool, ReplyRow.text, ReplyRow.decoded, hyes]

end getupnet.mikrotik_preloader.untyped
