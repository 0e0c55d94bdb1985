import Mathlib.Data.List.Basic

namespace python.template

/-- A character that stands for itself, or the value of an argument. -/
inductive Piece where
  | char (char : Char)
  | field (name : String)
  deriving DecidableEq

/-- The pieces of the text that is left, in the middle of a field or outside of one. -/
def pieces : Option (List Char) → List Char → Option (List Piece)
  | none, [] => some []
  | none, '{' :: '{' :: rest => (pieces none rest).map (.char '{' :: ·)
  | none, '}' :: '}' :: rest => (pieces none rest).map (.char '}' :: ·)
  | none, '{' :: rest => pieces (some []) rest
  | none, '}' :: _ => none
  | none, char :: rest => (pieces none rest).map (.char char :: ·)
  | some name, '}' :: rest => (pieces none rest).map (.field (String.ofList name.reverse) :: ·)
  | some _, '{' :: _ => none
  | some name, char :: rest => pieces (some (char :: name)) rest
  | some _, [] => none

def parse (template : String) : Option (List Piece) := pieces none template.toList

/-- The pieces put together, if there is an argument for each field. -/
def fill (kwargs : String → Option String) : List Piece → Option (List Char)
  | [] => some []
  | .char char :: rest => (fill kwargs rest).map (char :: ·)
  | .field name :: rest => do
    let value ← kwargs name
    let text ← fill kwargs rest
    return value.toList ++ text

/-- `template.format(**kwargs)`, where no field has an index, a conversion or a format
specification; `none` where it raises. -/
def format (template : String) (kwargs : String → Option String) : Option String := do
  let parsed ← parse template
  let text ← fill kwargs parsed
  return String.ofList text

section

variable {kwargs others : String → Option String} {name first second : String} {parsed : List Piece}
  {text other : List Char}

theorem fill_char {char : Char} {rest : List Piece} :
    fill kwargs (.char char :: rest) = some text ↔ ∃ tail, fill kwargs rest = some tail ∧ char :: tail = text := by
  rw [fill, Option.map_eq_some_iff]

theorem fill_field {rest : List Piece} :
    fill kwargs (.field name :: rest) = some text ↔
      ∃ value, kwargs name = some value ∧ ∃ tail, fill kwargs rest = some tail ∧ value.toList ++ tail = text := by
  simp [fill, Option.bind_eq_some_iff]

/-- A field that does not occur does not matter. -/
theorem fill_congr (hagree : ∀ field, field ≠ name → kwargs field = others field) (hmem : .field name ∉ parsed) :
    fill kwargs parsed = fill others parsed := by
  induction parsed with
  | nil => rfl
  | cons piece rest ih =>
    have hpiece : Piece.field name ≠ piece := List.ne_of_not_mem_cons hmem
    have hrest : Piece.field name ∉ rest := List.not_mem_of_not_mem_cons hmem
    cases piece with
    | char char => rw [fill, fill, ih hrest]
    | field field =>
      have hne : field ≠ name := fun heq => hpiece (by rw [heq])
      rw [fill, fill, ih hrest, hagree field hne]

/-- Two values of a field make texts of lengths that differ by as much as they do, once
for each time it occurs. -/
theorem fill_length (hagree : ∀ field, field ≠ name → kwargs field = others field)
    (hfirst : kwargs name = some first) (hsecond : others name = some second)
    (htext : fill kwargs parsed = some text) (hother : fill others parsed = some other) :
    text.length + parsed.count (.field name) * second.length =
      other.length + parsed.count (.field name) * first.length := by
  induction parsed generalizing text other with
  | nil =>
    cases htext
    cases hother
    rw [List.count_nil, Nat.zero_mul, Nat.zero_mul]
  | cons piece rest ih =>
    cases piece with
    | char char =>
      obtain ⟨tail, htail, rfl⟩ := fill_char.mp htext
      obtain ⟨ending, hending, rfl⟩ := fill_char.mp hother
      have hlength := ih htail hending
      have hcount : (Piece.char char :: rest).count (.field name) = rest.count (.field name) :=
        List.count_cons_of_ne (by simp)
      rw [hcount, List.length_cons, List.length_cons]
      omega
    | field field =>
      obtain ⟨value, hvalue, tail, htail, rfl⟩ := fill_field.mp htext
      obtain ⟨given, hgiven, ending, hending, rfl⟩ := fill_field.mp hother
      have hlength := ih htail hending
      by_cases hname : field = name
      · rw [hname, hfirst] at hvalue
        rw [hname, hsecond] at hgiven
        cases hvalue
        cases hgiven
        rw [hname, List.count_cons_self, List.length_append, List.length_append, Nat.add_mul, Nat.add_mul,
          String.length_toList, String.length_toList]
        omega
      · have hcount : (Piece.field field :: rest).count (.field name) = rest.count (.field name) :=
          List.count_cons_of_ne (by simpa using hname)
        have hsame : value = given := by
          rw [hagree field hname, hgiven] at hvalue
          exact (Option.some.inj hvalue).symm
        rw [hcount, hsame, List.length_append, List.length_append]
        omega

/-- Values of one length are where the field occurs first. -/
theorem fill_inj_of_length (hagree : ∀ field, field ≠ name → kwargs field = others field)
    (hfirst : kwargs name = some first) (hsecond : others name = some second)
    (hlength : first.length = second.length) (hmem : .field name ∈ parsed)
    (htext : fill kwargs parsed = some text) (hother : fill others parsed = some text) : first = second := by
  induction parsed generalizing text with
  | nil => cases hmem
  | cons piece rest ih =>
    cases piece with
    | char char =>
      obtain ⟨tail, htail, rfl⟩ := fill_char.mp htext
      obtain ⟨ending, hending, heq⟩ := fill_char.mp hother
      cases heq
      obtain heq | hrest := List.mem_cons.mp hmem
      · cases heq
      · exact ih hrest htail hending
    | field field =>
      obtain ⟨value, hvalue, tail, htail, rfl⟩ := fill_field.mp htext
      obtain ⟨given, hgiven, ending, hending, heq⟩ := fill_field.mp hother
      by_cases hname : field = name
      · rw [hname, hfirst] at hvalue
        rw [hname, hsecond] at hgiven
        cases hvalue
        cases hgiven
        rw [← String.length_toList, ← String.length_toList] at hlength
        exact String.toList_inj.mp (List.append_inj heq hlength.symm).1.symm
      · have hsame : given = value := by
          rw [hagree field hname, hgiven] at hvalue
          exact Option.some.inj hvalue
        rw [hsame] at heq
        have htails := List.append_cancel_left heq
        obtain heq | hrest := List.mem_cons.mp hmem
        · cases heq
          exact absurd rfl hname
        · exact ih hrest htail (htails ▸ hending)

/-- The text tells the values of a field that occurs in it apart, when nothing else
changes. -/
theorem fill_inj (hagree : ∀ field, field ≠ name → kwargs field = others field)
    (hfirst : kwargs name = some first) (hsecond : others name = some second) (hmem : .field name ∈ parsed)
    (htext : fill kwargs parsed = some text) (hother : fill others parsed = some text) : first = second := by
  have hlength := fill_length hagree hfirst hsecond htext hother
  have hcount : 0 < parsed.count (.field name) := List.count_pos_iff.mpr hmem
  have hequal : second.length = first.length :=
    Nat.eq_of_mul_eq_mul_left hcount (Nat.add_left_cancel hlength)
  exact fill_inj_of_length hagree hfirst hsecond hequal.symm hmem htext hother

theorem format_eq_some {template formatted : String} :
    format template kwargs = some formatted ↔
      ∃ parsed, parse template = some parsed ∧ ∃ text, fill kwargs parsed = some text ∧ String.ofList text = formatted := by
  simp [format, Option.bind_eq_some_iff]

end

end python.template
