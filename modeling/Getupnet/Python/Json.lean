import Getupnet.Python.Text
import Getupnet.Python.Urlencoded

namespace python.json

def hexDigit (digit : Nat) : Char := if digit < 10 then Char.ofNat (48 + digit) else Char.ofNat (87 + digit)

/-- The four hexadecimal digits of a number. -/
def hexDigits (code : Nat) : List Char :=
  [hexDigit (code / 4096), hexDigit (code / 256 % 16), hexDigit (code / 16 % 16), hexDigit (code % 16)]

def unicodeEscape (code : Nat) : List Char := '\\' :: 'u' :: hexDigits code

/-- The characters that are written as `\` and a letter or themselves. -/
def escapes : List (Char × Char) :=
  [('\\', '\\'), ('\"', '\"'), ('\x08', 'b'), ('\x0c', 'f'), ('\n', 'n'), ('\r', 'r'), ('\t', 't')]

/-- A character of a string, in ASCII. One beyond 16 bits is a pair of surrogates. -/
def escape (char : Char) : List Char :=
  match escapes.lookup char with
  | some letter => ['\\', letter]
  | none =>
    if ' ' ≤ char ∧ char ≤ '~' then [char]
    else if char.toNat < 0x10000 then unicodeEscape char.toNat
    else
      let code := char.toNat - 0x10000
      unicodeEscape (0xD800 + code / 1024) ++ unicodeEscape (0xDC00 + code % 1024)

/-- A string between quotation marks. -/
def encode_string (text : String) : List Char := '\"' :: (text.toList.flatMap escape ++ ['\"'])

mutual

/-- The text of a value. That of an object of another type is the text it comes with. -/
def encode : Value → List Char
  | .none => ['n', 'u', 'l', 'l']
  | .bool true => ['t', 'r', 'u', 'e']
  | .bool false => ['f', 'a', 'l', 's', 'e']
  | .int value => (toString value).toList
  | .str text => encode_string text
  | .list [] => ['[', ']']
  | .list (item :: rest) => '[' :: (encode item ++ (encodeItems rest ++ [']']))
  | .dict [] => ['{', '}']
  | .dict (entry :: rest) => '{' :: (encodeEntry entry ++ (encodeEntries rest ++ ['}']))
  | .other _ text => text.toList

/-- The items after the first. -/
def encodeItems : List Value → List Char
  | [] => []
  | item :: rest => ',' :: ' ' :: (encode item ++ encodeItems rest)

/-- The entries after the first. -/
def encodeEntries : List (String × Value) → List Char
  | [] => []
  | entry :: rest => ',' :: ' ' :: (encodeEntry entry ++ encodeEntries rest)

def encodeEntry : String × Value → List Char
  | (key, value) => encode_string key ++ ':' :: ' ' :: encode value

end

theorem encodeEntry_mk (key : String) (value : Value) :
    encodeEntry (key, value) = encode_string key ++ ':' :: ' ' :: encode value := rfl

/-- `json.dumps(value)` -/
def dumps (value : Value) : String := String.ofList (encode value)

def isSpace (char : Char) : Bool := char = ' ' || char = '\t' || char = '\n' || char = '\r'

def skip (text : List Char) : List Char := text.dropWhile isSpace

/-- Four hexadecimal digits. -/
def decode_uXXXX : List Char → Option (Nat × List Char)
  | first :: second :: third :: fourth :: rest =>
    match escapeValue first second, escapeValue third fourth with
    | some high, some low => some (256 * high + low, rest)
    | _, _ => none
  | _ => none

/-- `chr(code)`, for a code that is not half of a pair of surrogates. -/
def chr (code : Nat) : Option Char := if code.isValidChar then some (Char.ofNat code) else none

/-- The characters that `\` stands before. -/
def unescapes : List (Char × Char) :=
  [('\"', '\"'), ('\\', '\\'), ('/', '/'), ('b', '\x08'), ('f', '\x0c'), ('n', '\n'), ('r', '\r'), ('t', '\t')]

/-- The second half of a pair of surrogates. -/
def lowSurrogate : List Char → Option (Nat × List Char)
  | '\\' :: 'u' :: rest => decode_uXXXX rest
  | _ => none

/-- What follows `\u`. -/
def decode_unicode (text : List Char) : Option (Char × List Char) := do
  let (code, rest) ← decode_uXXXX text
  if 0xD800 ≤ code ∧ code ≤ 0xDBFF then
    let (low, rest) ← lowSurrogate rest
    if 0xDC00 ≤ low ∧ low ≤ 0xDFFF then
      let char ← chr (0x10000 + ((code - 0xD800) * 1024 + (low - 0xDC00)))
      return (char, rest)
    else none
  else
    let char ← chr code
    return (char, rest)

/-- What follows `\`. -/
def decode_escape : List Char → Option (Char × List Char)
  | [] => none
  | char :: rest =>
    if char = 'u' then decode_unicode rest else (unescapes.lookup char).map fun char => (char, rest)

/-- A string up to its closing quotation mark, with no control character in it. -/
def scanstring : Nat → List Char → Option (List Char × List Char)
  | 0, _ => none
  | _ + 1, [] => none
  | fuel + 1, char :: rest =>
    if char = '\"' then some ([], rest)
    else if char = '\\' then do
      let (char, rest) ← decode_escape rest
      let (chars, rest) ← scanstring fuel rest
      return (char :: chars, rest)
    else if char < ' ' then none
    else do
      let (chars, rest) ← scanstring fuel rest
      return (char :: chars, rest)

def scanDigits (text : List Char) : List Char × List Char :=
  (text.takeWhile Char.isDigit, text.dropWhile Char.isDigit)

/-- `0`, or digits that begin with another one. -/
def scanMagnitude : List Char → Option (List Char × List Char)
  | [] => none
  | char :: rest =>
    if char = '0' then some (['0'], rest)
    else if char.isDigit then some (char :: (scanDigits rest).1, (scanDigits rest).2)
    else none

def scanInteger : List Char → Option (List Char × List Char)
  | '-' :: rest => (scanMagnitude rest).map fun (digits, rest) => ('-' :: digits, rest)
  | text => scanMagnitude text

/-- `.` and digits, if that is what comes next. -/
def scanFraction : List Char → List Char × List Char
  | '.' :: rest =>
    if (scanDigits rest).1 = [] then ([], '.' :: rest) else ('.' :: (scanDigits rest).1, (scanDigits rest).2)
  | text => ([], text)

def scanSign : List Char → List Char × List Char
  | '-' :: rest => (['-'], rest)
  | '+' :: rest => (['+'], rest)
  | text => ([], text)

/-- `e` or `E`, a sign and digits, if that is what comes next. -/
def scanExponent : List Char → List Char × List Char
  | [] => ([], [])
  | char :: rest =>
    if char = 'e' ∨ char = 'E' then
      let (sign, digits) := scanSign rest
      if (scanDigits digits).1 = [] then ([], char :: rest)
      else (char :: (sign ++ (scanDigits digits).1), (scanDigits digits).2)
    else ([], char :: rest)

section

variable (float : String → Value)

/-- A number, which is an `int` unless it has a fraction or an exponent. -/
def match_number (text : List Char) : Option (Value × List Char) := do
  let (integer, rest) ← scanInteger text
  let (fraction, rest) := scanFraction rest
  let (exponent, rest) := scanExponent rest
  if fraction = [] ∧ exponent = [] then
    let value ← decimal (String.ofList integer)
    return (.int value, rest)
  else return (float (String.ofList (integer ++ fraction ++ exponent)), rest)

/-- The words that are values. -/
def words : List (List Char × Value) :=
  [(['n', 'u', 'l', 'l'], .none), (['t', 'r', 'u', 'e'], .bool true), (['f', 'a', 'l', 's', 'e'], .bool false)]

def match_word (text : List Char) : Option (Value × List Char) :=
  words.findSome? fun (word, value) => if word <+: text then some (value, text.drop word.length) else none

/-- The words for what is no number. -/
def match_constant (text : List Char) : Option (Value × List Char) :=
  ["NaN", "Infinity", "-Infinity"].findSome? fun word =>
    if word.toList <+: text then some (float word, text.drop word.length) else none

def match_scalar (text : List Char) : Option (Value × List Char) :=
  match_word text <|> match_number float text <|> match_constant float text

/-- `dict(pairs)`: the last value of a key stays. -/
def dict (pairs : Dict) : Dict := pairs.foldl (fun entries pair => Dict.set pair.1 pair.2 entries) []

mutual

/-- The value at the start of a text, and what follows it. Each level of nesting and
each element takes a unit of fuel. -/
def scan_once : Nat → List Char → Option (Value × List Char)
  | 0, _ => none
  | _ + 1, [] => none
  | fuel + 1, nextchar :: rest =>
    if nextchar = '\"' then do
      let (chars, rest) ← scanstring fuel rest
      return (.str (String.ofList chars), rest)
    else if nextchar = '{' then
      match skip rest with
      | '}' :: rest => some (.dict [], rest)
      | '\"' :: rest => do
        let (pairs, rest) ← scan_pairs fuel rest
        return (.dict (dict pairs), rest)
      | _ => none
    else if nextchar = '[' then
      match skip rest with
      | ']' :: rest => some (.list [], rest)
      | text => do
        let (items, rest) ← scan_items fuel text
        return (.list items, rest)
    else match_scalar float (nextchar :: rest)

/-- The items of a list up to its closing bracket. -/
def scan_items : Nat → List Char → Option (List Value × List Char)
  | 0, _ => none
  | fuel + 1, text => do
    let (item, rest) ← scan_once fuel text
    match skip rest with
    | ']' :: rest => return ([item], rest)
    | ',' :: rest => do
      let (items, rest) ← scan_items fuel (skip rest)
      return (item :: items, rest)
    | _ => none

/-- The pairs of a dictionary up to its closing brace, from after the quotation mark
that opens a key. -/
def scan_pairs : Nat → List Char → Option (Dict × List Char)
  | 0, _ => none
  | fuel + 1, text => do
    let (key, rest) ← scanstring fuel text
    match skip rest with
    | ':' :: rest => do
      let (value, rest) ← scan_once fuel (skip rest)
      match skip rest with
      | '}' :: rest => return ([(String.ofList key, value)], rest)
      | ',' :: rest =>
        match skip rest with
        | '\"' :: rest => do
          let (pairs, rest) ← scan_pairs fuel rest
          return ((String.ofList key, value) :: pairs, rest)
        | _ => none
      | _ => none
    | _ => none

end

/-- `json.loads(text)`, or `none` where it raises. `float` gives the numbers that are
no `int`. -/
def loads (text : String) : Option Value := do
  let (value, rest) ← scan_once float (text.length + 1) (skip text.toList)
  if skip rest = [] then return value else none

end

mutual

/-- A value of the types that JSON has, with each key once in each dictionary. -/
def IsJson : Value → Prop
  | .list items => ItemsAreJson items
  | .dict entries => (entries.map Prod.fst).Nodup ∧ EntriesAreJson entries
  | .other _ _ => False
  | _ => True

def ItemsAreJson : List Value → Prop
  | [] => True
  | item :: rest => IsJson item ∧ ItemsAreJson rest

def EntriesAreJson : List (String × Value) → Prop
  | [] => True
  | entry :: rest => EntryIsJson entry ∧ EntriesAreJson rest

def EntryIsJson : String × Value → Prop
  | (_, value) => IsJson value

end

section

variable {char : Char} {rest : List Char} {fuel code : Nat}

theorem hexValue_hexDigit (h : code < 16) : hexValue (hexDigit code) = some code := by
  have hall : ∀ digit < 16, hexValue (hexDigit digit) = some digit := by decide
  exact hall code h

theorem decode_uXXXX_hexDigits (h : code < 0x10000) :
    decode_uXXXX (hexDigits code ++ rest) = some (code, rest) := by
  have hfirst := hexValue_hexDigit (show code / 4096 < 16 by omega)
  have hsecond := hexValue_hexDigit (show code / 256 % 16 < 16 by omega)
  have hthird := hexValue_hexDigit (show code / 16 % 16 < 16 by omega)
  have hfourth := hexValue_hexDigit (show code % 16 < 16 by omega)
  simp only [hexDigits, List.cons_append, List.nil_append, decode_uXXXX, escapeValue, hfirst, hsecond, hthird,
    hfourth, Option.some.injEq, Prod.mk.injEq, and_true]
  omega

theorem chr_toNat (char : Char) : chr char.toNat = some char := by
  have hvalid : char.toNat.isValidChar := char.valid
  rw [chr, if_pos hvalid, Char.ofNat_toNat]

theorem decode_unicode_of_lt (h : char.toNat < 0x10000) :
    decode_unicode (hexDigits char.toNat ++ rest) = some (char, rest) := by
  have hvalid : char.toNat < 0xD800 ∨ 0xDFFF < char.toNat ∧ char.toNat < 0x110000 := char.valid
  have hpair : ¬(0xD800 ≤ char.toNat ∧ char.toNat ≤ 0xDBFF) := by omega
  simp [decode_unicode, decode_uXXXX_hexDigits h, hpair, chr_toNat]

theorem decode_unicode_pair {high low : Nat} (hhigh : 0xD800 ≤ high ∧ high ≤ 0xDBFF)
    (hlow : 0xDC00 ≤ low ∧ low ≤ 0xDFFF) :
    decode_unicode (hexDigits high ++ (unicodeEscape low ++ rest)) =
      (chr (0x10000 + ((high - 0xD800) * 1024 + (low - 0xDC00)))).map fun char => (char, rest) := by
  have hfirst := @decode_uXXXX_hexDigits (unicodeEscape low ++ rest) high (by omega)
  have hsecond := @decode_uXXXX_hexDigits rest low (by omega)
  rw [decode_unicode, hfirst]
  simp only [Option.bind_eq_bind, Option.bind_some, if_pos hhigh, unicodeEscape, List.cons_append, lowSurrogate,
    hsecond, if_pos hlow]
  cases chr (0x10000 + ((high - 0xD800) * 1024 + (low - 0xDC00))) <;> rfl

/-- A character beyond 16 bits is read back from its pair of surrogates. -/
theorem decode_unicode_of_ge (h : 0x10000 ≤ char.toNat) :
    decode_unicode (hexDigits (0xD800 + (char.toNat - 0x10000) / 1024) ++
      (unicodeEscape (0xDC00 + (char.toNat - 0x10000) % 1024) ++ rest)) = some (char, rest) := by
  have hvalid : char.toNat < 0xD800 ∨ 0xDFFF < char.toNat ∧ char.toNat < 0x110000 := char.valid
  have hchr := chr_toNat char
  revert h hvalid hchr
  generalize char.toNat = number
  intro h hvalid hchr
  have hdiv := Nat.div_add_mod (number - 0x10000) 1024
  have hmod := Nat.mod_lt (number - 0x10000) (show 0 < 1024 by omega)
  generalize (number - 0x10000) / 1024 = quotient at hdiv ⊢
  generalize (number - 0x10000) % 1024 = remainder at hdiv hmod ⊢
  rw [decode_unicode_pair (by omega) (by omega)]
  have hcode : 0x10000 + ((0xD800 + quotient - 0xD800) * 1024 + (0xDC00 + remainder - 0xDC00)) = number := by
    omega
  rw [hcode, hchr, Option.map_some]

/-- An escaped character is read back as itself. -/
theorem scanstring_escape (char : Char) (rest : List Char) (fuel : Nat) :
    scanstring (fuel + 1) (escape char ++ rest) =
      (scanstring fuel rest).map fun (chars, rest) => (char :: chars, rest) := by
  have hread : ∀ text, decode_escape text = some (char, rest) →
      scanstring (fuel + 1) ('\\' :: text) =
        (scanstring fuel rest).map fun (chars, rest) => (char :: chars, rest) := by
    intro text htext
    simp only [scanstring, Char.reduceEq, if_false, if_true, htext, Option.bind_eq_bind, Option.bind_some]
    cases scanstring fuel rest <;> rfl
  have hplain : char ≠ '\"' → char ≠ '\\' → ¬char < ' ' →
      scanstring (fuel + 1) (char :: rest) =
        (scanstring fuel rest).map fun (chars, rest) => (char :: chars, rest) := by
    intro hquote hbackslash hspace
    rw [scanstring, if_neg hquote, if_neg hbackslash, if_neg hspace]
    cases scanstring fuel rest <;> rfl
  unfold escape
  split
  · rename_i letter hletter
    apply hread
    have hall : ∀ pair ∈ escapes, ∀ rest, decode_escape (pair.2 :: rest) = some (pair.1, rest) := by
      simp [escapes, decode_escape, unescapes, List.lookup_cons]
    obtain ⟨before, after, htable, -⟩ := List.lookup_eq_some_iff.mp hletter
    exact hall (char, letter) (htable ▸ List.mem_append_right before List.mem_cons_self) rest
  · rename_i hnone
    have hquote : char ≠ '\"' := fun h => by simp [escapes, h] at hnone
    have hbackslash : char ≠ '\\' := fun h => by simp [escapes, h] at hnone
    split
    · rename_i hprinted
      exact hplain hquote hbackslash (Char.not_lt.mpr hprinted.1)
    split
    · rename_i h
      exact hread _ (decode_unicode_of_lt h)
    · rename_i h
      rw [List.append_assoc]
      exact hread _ (decode_unicode_of_ge (by omega))

theorem escape_ne_nil (char : Char) : 1 ≤ (escape char).length := by
  unfold escape
  split
  · simp
  split
  · simp
  split
  · simp [unicodeEscape]
  · simp [unicodeEscape]

theorem length_le_escaped (chars : List Char) : chars.length ≤ (chars.flatMap escape).length := by
  induction chars with
  | nil => simp
  | cons char chars ih =>
    have hchar := escape_ne_nil char
    simp only [List.flatMap_cons, List.length_cons, List.length_append]
    omega

/-- A string is read back up to its closing quotation mark. -/
theorem scanstring_escaped {chars : List Char} (h : chars.length < fuel) (rest : List Char) :
    scanstring fuel (chars.flatMap escape ++ '\"' :: rest) = some (chars, rest) := by
  induction chars generalizing fuel with
  | nil =>
    cases fuel with
    | zero => cases h
    | succ fuel => rfl
  | cons char chars ih =>
    cases fuel with
    | zero => cases h
    | succ fuel =>
      have hrest := ih (Nat.lt_of_succ_lt_succ h)
      rw [List.flatMap_cons, List.append_assoc, scanstring_escape, hrest, Option.map_some]

/-- What follows a number goes on with none of its parts. -/
def EndsNumber (rest : List Char) : Prop :=
  ∀ char ∈ rest.head?, char.isDigit = false ∧ char ≠ '.' ∧ char ≠ 'e' ∧ char ≠ 'E'

theorem scanDigits_append {digits : List Char} (h : ∀ digit ∈ digits, digit.isDigit) (hends : EndsNumber rest) :
    scanDigits (digits ++ rest) = (digits, rest) := by
  have hrest : rest.takeWhile Char.isDigit = [] ∧ rest.dropWhile Char.isDigit = rest := by
    cases rest with
    | nil => exact ⟨rfl, rfl⟩
    | cons char rest =>
      have hchar := (hends char rfl).1
      simp [hchar]
  rw [scanDigits, List.takeWhile_append_of_pos h, List.dropWhile_append_of_pos h, hrest.1, hrest.2,
    List.append_nil]

theorem scanMagnitude_toDigits (number : Nat) (hends : EndsNumber rest) :
    scanMagnitude (Nat.toDigits 10 number ++ rest) = some (Nat.toDigits 10 number, rest) := by
  obtain rfl | hpos := Nat.eq_zero_or_pos number
  · rfl
  · obtain ⟨digit, digits, hdigits, hzero⟩ := toDigits_head hpos
    have hall : ∀ other ∈ digit :: digits, other.isDigit := fun other hother =>
      Nat.isDigit_of_mem_toDigits (by omega) (by omega) (hdigits ▸ hother)
    have hrest := scanDigits_append (fun other hother => hall other (List.mem_cons_of_mem digit hother)) hends
    rw [hdigits, List.cons_append, scanMagnitude, if_neg hzero, if_pos (hall digit List.mem_cons_self), hrest]

/-- The text of a number begins with a digit or a sign. -/
theorem toString_head (number : Int) :
    ∃ char text, (toString number).toList = char :: text ∧ (char.isDigit = true ∨ char = '-') := by
  cases number with
  | ofNat number =>
    obtain ⟨char, text, htext⟩ := List.exists_cons_of_ne_nil (@Nat.toDigits_ne_nil number 10)
    have hchar : char ∈ Nat.toDigits 10 number := htext ▸ List.mem_cons_self
    have hdigit := Nat.isDigit_of_mem_toDigits (by omega) (by omega) hchar
    exact ⟨char, text, (toString_ofNat number).trans htext, .inl hdigit⟩
  | negSucc number => exact ⟨'-', _, toString_negSucc number, .inr rfl⟩

theorem scanInteger_toString (number : Int) (hends : EndsNumber rest) :
    scanInteger ((toString number).toList ++ rest) = some ((toString number).toList, rest) := by
  cases number with
  | ofNat number =>
    have hmagnitude := scanMagnitude_toDigits number hends
    rw [toString_ofNat, ← hmagnitude]
    obtain ⟨char, text, htext⟩ := List.exists_cons_of_ne_nil (@Nat.toDigits_ne_nil number 10)
    have hchar : char ∈ Nat.toDigits 10 number := htext ▸ List.mem_cons_self
    have hdigit := Nat.isDigit_of_mem_toDigits (by omega) (by omega) hchar
    rw [htext, List.cons_append, scanInteger]
    rintro _ ⟨rfl, -⟩
    cases hdigit
  | negSucc number =>
    rw [toString_negSucc, List.cons_append, scanInteger, scanMagnitude_toDigits (number + 1) hends]
    rfl

theorem scanFraction_of_ends (hends : EndsNumber rest) : scanFraction rest = ([], rest) := by
  cases rest with
  | nil => rfl
  | cons char rest =>
    rw [scanFraction]
    rintro _ ⟨rfl, -⟩
    exact (hends '.' rfl).2.1 rfl

theorem scanExponent_of_ends (hends : EndsNumber rest) : scanExponent rest = ([], rest) := by
  cases rest with
  | nil => rfl
  | cons char rest =>
    have hchar := (hends char rfl).2.2
    rw [scanExponent, if_neg (not_or.mpr hchar)]

theorem match_number_toString (float : String → Value) (number : Int) (hends : EndsNumber rest) :
    match_number float ((toString number).toList ++ rest) = some (.int number, rest) := by
  rw [match_number, scanInteger_toString number hends]
  simp only [Option.bind_eq_bind, Option.bind_some, scanFraction_of_ends hends, scanExponent_of_ends hends,
    and_self, if_true, String.ofList_toList, decimal_toString, Option.pure_def]

theorem match_word_none (hchar : char.isDigit = true ∨ char = '-') : match_word (char :: rest) = none := by
  have hletters : char ≠ 'n' ∧ char ≠ 't' ∧ char ≠ 'f' := by
    refine ⟨?_, ?_, ?_⟩ <;> rintro rfl <;> simp at hchar
  simp [match_word, words, hletters.1.symm, hletters.2.1.symm, hletters.2.2.symm]

theorem scan_once_toString (float : String → Value) (number : Int) (hends : EndsNumber rest) :
    scan_once float (fuel + 1) ((toString number).toList ++ rest) = some (.int number, rest) := by
  have hnumber := match_number_toString float number hends
  obtain ⟨char, text, htext, hchar⟩ := toString_head number
  rw [htext, List.cons_append] at hnumber ⊢
  have hopens : char ≠ '\"' ∧ char ≠ '{' ∧ char ≠ '[' := by
    refine ⟨?_, ?_, ?_⟩ <;> rintro rfl <;> simp at hchar
  rw [scan_once, if_neg hopens.1, if_neg hopens.2.1, if_neg hopens.2.2, match_scalar, match_word_none hchar,
    hnumber]
  rfl

theorem skip_cons (h : isSpace char = false) (rest : List Char) : skip (char :: rest) = char :: rest := by
  rw [skip, List.dropWhile_cons_of_neg (Bool.not_eq_true _ ▸ h)]

theorem skip_space (rest : List Char) : skip (' ' :: rest) = skip rest := rfl

theorem skip_comma (rest : List Char) : skip (',' :: rest) = ',' :: rest := skip_cons rfl rest

theorem skip_colon (rest : List Char) : skip (':' :: rest) = ':' :: rest := skip_cons rfl rest

theorem skip_quote (rest : List Char) : skip ('\"' :: rest) = '\"' :: rest := skip_cons rfl rest

/-- A written value begins with no space, and does not close a list. -/
theorem encode_head (value : Value) (h : IsJson value) :
    ∃ char text, encode value = char :: text ∧ isSpace char = false ∧ char ≠ ']' := by
  cases value with
  | none => exact ⟨_, _, rfl, rfl, by simp⟩
  | bool value => cases value <;> exact ⟨_, _, rfl, rfl, by simp⟩
  | int number =>
    obtain ⟨char, text, htext, hchar⟩ := toString_head number
    refine ⟨char, text, htext, ?_, ?_⟩
    · rw [Bool.eq_false_iff]
      intro hspace
      simp only [isSpace, Bool.or_eq_true, decide_eq_true_eq] at hspace
      obtain ((rfl | rfl) | rfl) | rfl := hspace <;> simp at hchar
    · rintro rfl
      simp at hchar
  | str text => exact ⟨_, _, rfl, rfl, by simp⟩
  | list items => cases items <;> exact ⟨_, _, rfl, rfl, by simp⟩
  | dict entries => cases entries <;> exact ⟨_, _, rfl, rfl, by simp⟩
  | other truth text => cases h

theorem skip_encode {value : Value} (h : IsJson value) (rest : List Char) :
    skip (encode value ++ rest) = encode value ++ rest := by
  obtain ⟨char, text, htext, hspace, -⟩ := encode_head value h
  rw [htext, List.cons_append, skip_cons hspace]

theorem dict_of_nodup {pairs : Dict} (h : (pairs.map Prod.fst).Nodup) : dict pairs = pairs := by
  have happend : ∀ (entries : Dict), ((entries ++ pairs).map Prod.fst).Nodup →
      pairs.foldl (fun entries pair => Dict.set pair.1 pair.2 entries) entries = entries ++ pairs := by
    clear h
    induction pairs with
    | nil => intro entries _; rw [List.append_nil]; rfl
    | cons pair pairs ih =>
      intro entries hkeys
      have hnew : pair.1 ∉ entries.map Prod.fst := by
        rw [List.map_append, List.nodup_append] at hkeys
        exact fun hmem => hkeys.2.2 _ hmem _ List.mem_cons_self rfl
      rw [List.foldl_cons, Dict.set_of_notMem hnew, ih, List.append_assoc, List.singleton_append]
      rwa [List.append_assoc, List.singleton_append]
  exact happend [] h

theorem endsNumber_of_not_digit (hdigit : char.isDigit = false) (h : char ≠ '.' ∧ char ≠ 'e' ∧ char ≠ 'E') :
    EndsNumber (char :: rest) := by
  rintro _ ⟨rfl⟩
  exact ⟨hdigit, h⟩

theorem endsNumber_encodeItems (items : List Value) (rest : List Char) :
    EndsNumber (encodeItems items ++ ']' :: rest) := by
  cases items with
  | nil => exact endsNumber_of_not_digit rfl (by simp)
  | cons item items => exact endsNumber_of_not_digit rfl (by simp)

theorem endsNumber_encodeEntries (entries : Dict) (rest : List Char) :
    EndsNumber (encodeEntries entries ++ '}' :: rest) := by
  cases entries with
  | nil => exact endsNumber_of_not_digit rfl (by simp)
  | cons entry entries => exact endsNumber_of_not_digit rfl (by simp)

/-- A bracket opens a list of items, if it is not closed at once. -/
theorem scan_once_bracket (float : String → Value) {text : List Char} (h : ∀ rest, skip text ≠ ']' :: rest) :
    scan_once float (fuel + 1) ('[' :: text) =
      (scan_items float fuel (skip text)).map fun (items, rest) => (.list items, rest) := by
  rw [scan_once, if_neg (by simp), if_neg (by simp), if_pos rfl]
  split
  · rename_i rest hclosed
    exact absurd hclosed (h rest)
  · cases scan_items float fuel (skip text) <;> rfl

theorem scan_once_brace (float : String → Value) {text : List Char} (h : skip text = '\"' :: rest) :
    scan_once float (fuel + 1) ('{' :: text) =
      (scan_pairs float fuel rest).map fun (pairs, rest) => (.dict (dict pairs), rest) := by
  rw [scan_once, if_neg (by simp), if_pos rfl, h]
  cases hpairs : scan_pairs float fuel rest <;> simp [hpairs]

end

mutual

/-- A value is read back from the start of a text, whatever follows it. -/
theorem scan_once_encode (float : String → Value) : ∀ (value : Value), IsJson value →
    ∀ (fuel : Nat) (rest : List Char), (encode value).length < fuel → EndsNumber rest →
      scan_once float fuel (encode value ++ rest) = some (value, rest)
  | value, _, 0, _, hfuel, _ => absurd hfuel (Nat.not_lt_zero _)
  | .none, _, fuel + 1, rest, _, _ => by simp [encode, scan_once, match_scalar, match_word, words]
  | .bool true, _, fuel + 1, rest, _, _ => by simp [encode, scan_once, match_scalar, match_word, words]
  | .bool false, _, fuel + 1, rest, _, _ => by simp [encode, scan_once, match_scalar, match_word, words]
  | .int number, _, fuel + 1, rest, _, hends => scan_once_toString float number hends
  | .str text, _, fuel + 1, rest, hfuel, _ => by
    have hlength := length_le_escaped text.toList
    simp only [encode, encode_string, List.length_cons, List.length_append, List.length_nil] at hfuel
    have hstring := scanstring_escaped (show text.toList.length < fuel by omega) rest
    simp [encode, encode_string, scan_once, hstring]
  | .list [], _, fuel + 1, rest, _, _ => by simp [encode, scan_once, skip, isSpace]
  | .list (item :: items), h, fuel + 1, rest, hfuel, _ => by
    have hitems := scan_items_encode float (item :: items) h fuel rest (List.cons_ne_nil item items)
    obtain ⟨char, text, hhead, hspace, hclose⟩ := encode_head item h.1
    have hskip := skip_encode h.1 (encodeItems items ++ ']' :: rest)
    simp only [encode, encodeItems, List.length_cons, List.length_append, List.length_nil, List.drop_succ_cons,
      List.drop_zero, List.append_assoc, List.cons_append, List.nil_append] at hfuel hitems ⊢
    rw [scan_once_bracket, hskip, hitems (by omega), Option.map_some]
    intro other hother
    rw [hskip, hhead] at hother
    exact hclose (List.cons.inj hother).1
  | .dict [], _, fuel + 1, rest, _, _ => by simp [encode, scan_once, skip, isSpace]
  | .dict (entry :: entries), h, fuel + 1, rest, hfuel, _ => by
    have hpairs := scan_pairs_encode float (entry :: entries) h.2 fuel rest (List.cons_ne_nil entry entries)
    obtain ⟨key, value⟩ := entry
    simp only [encode, encodeEntries, encodeEntry_mk, encode_string, List.length_cons, List.length_append,
      List.length_nil, List.drop_succ_cons, List.drop_zero, List.append_assoc, List.cons_append,
      List.nil_append] at hfuel hpairs ⊢
    rw [scan_once_brace float (skip_quote _), hpairs (by omega), Option.map_some]
    simp only [dict_of_nodup h.1]
  | .other _ _, h, _ + 1, _, _, _ => by cases h

theorem scan_items_encode (float : String → Value) : ∀ (items : List Value), ItemsAreJson items →
    ∀ (fuel : Nat) (rest : List Char), items ≠ [] → (encodeItems items).length ≤ fuel →
      scan_items float fuel ((encodeItems items).drop 2 ++ ']' :: rest) = some (items, rest)
  | [], _, _, _, hne, _ => absurd rfl hne
  | item :: items, h, fuel, rest, _, hfuel => by
    have hitem := scan_once_encode float item h.1
    have hitems := scan_items_encode float items h.2
    cases fuel with
    | zero => simp [encodeItems] at hfuel
    | succ fuel =>
      simp only [encodeItems, List.length_cons, List.length_append, List.drop_succ_cons, List.drop_zero,
        List.append_assoc] at hfuel ⊢
      have hfirst := hitem fuel _ (by omega) (endsNumber_encodeItems items rest)
      rw [scan_items, hfirst, Option.bind_eq_bind, Option.bind_some]
      cases items with
      | nil => rfl
      | cons next items =>
        have hnext := hitems fuel rest (List.cons_ne_nil next items) (by omega)
        simp only [encodeItems, List.drop_succ_cons, List.drop_zero, List.append_assoc,
          List.cons_append] at hnext ⊢
        simp only [skip_comma, skip_space, skip_encode h.2.1, hnext, Option.bind_eq_bind, Option.bind_some,
          Option.pure_def]

theorem scan_pairs_encode (float : String → Value) : ∀ (entries : Dict), EntriesAreJson entries →
    ∀ (fuel : Nat) (rest : List Char), entries ≠ [] → (encodeEntries entries).length ≤ fuel →
      scan_pairs float fuel ((encodeEntries entries).drop 3 ++ '}' :: rest) = some (entries, rest)
  | [], _, _, _, hne, _ => absurd rfl hne
  | (key, value) :: entries, h, fuel, rest, _, hfuel => by
    have hvalue := scan_once_encode float value h.1
    have hentries := scan_pairs_encode float entries h.2
    have hlength := length_le_escaped key.toList
    cases fuel with
    | zero => simp [encodeEntries] at hfuel
    | succ fuel =>
      simp only [encodeEntries, encodeEntry_mk, encode_string, List.length_cons, List.length_append,
        List.drop_succ_cons, List.drop_zero, List.append_assoc, List.cons_append, List.nil_append] at hfuel ⊢
      rw [scan_pairs, scanstring_escaped (by omega), Option.bind_eq_bind, Option.bind_some]
      have hfirst := hvalue fuel _ (by omega) (endsNumber_encodeEntries entries rest)
      simp only [skip_colon, skip_space, skip_encode h.1, hfirst, Option.bind_eq_bind, Option.bind_some,
        String.ofList_toList]
      cases entries with
      | nil => rfl
      | cons next entries =>
        have hnext := hentries fuel rest (List.cons_ne_nil next entries) (by omega)
        obtain ⟨other, after⟩ := next
        simp only [encodeEntries, encodeEntry_mk, encode_string, List.drop_succ_cons, List.drop_zero,
          List.append_assoc, List.cons_append, List.nil_append] at hnext ⊢
        simp only [skip_comma, skip_space, skip_quote, hnext, Option.bind_some, Option.pure_def]

end

/-- `json.loads(json.dumps(value))` is the value. -/
theorem loads_dumps (float : String → Value) {value : Value} (h : IsJson value) :
    loads float (dumps value) = some value := by
  have hscan := scan_once_encode float value h ((encode value).length + 1) [] (by omega) (by simp [EndsNumber])
  have hskip := skip_encode h []
  rw [List.append_nil] at hscan hskip
  rw [loads, dumps, String.toList_ofList, String.length_ofList, hskip, hscan]
  rfl

end python.json
