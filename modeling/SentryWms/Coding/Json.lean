import Mathlib.Data.Int.Notation
import Mathlib.Data.List.Basic

/-!
# JSON text

A string is the list of its code points, since the text of a JSON string can name surrogates.
`loads` reads a document with a scanner that enters as many arrays and objects as it may;
`dumps` writes an object of strings in ASCII.  What is written reads back.
-/

namespace Coding.Json

/-- A string as its code points, surrogates among them. -/
abbrev Points := List ℕ

/-- A string of characters. -/
def ofChars (text : List Char) : Points := text.map Char.toNat

/-- A document.  The fields of an object are in the order they were first read. -/
inductive Value
  | null
  | bool (value : Bool)
  | int (value : ℤ)
  | float (literal : Points)
  | str (text : Points)
  | list (items : List Value)
  | dict (fields : List (Points × Value))
  deriving Repr

/-- How reading fails: on text that is no document, or on too many open arrays and objects. -/
inductive Error
  | value
  | recursion
  deriving DecidableEq, Repr

/-- What a scanner has read, and what is left. -/
abbrev Scanned (Result : Type) := Except Error (Result × Points)

/-! ## Scanners -/

/-- White space. -/
def skipSpace (text : Points) : Points :=
  text.dropWhile fun point => point = 32 ∨ point = 9 ∨ point = 10 ∨ point = 13

def isDigit (point : ℕ) : Bool := decide (48 ≤ point ∧ point ≤ 57)

def hexValue (point : ℕ) : Option ℕ :=
  if 48 ≤ point ∧ point ≤ 57 then some (point - 48)
  else if 97 ≤ point ∧ point ≤ 102 then some (point - 87)
  else if 65 ≤ point ∧ point ≤ 70 then some (point - 55)
  else none

/-- Four hexadecimal digits. -/
def hexValue4 (a b c d : ℕ) : Option ℕ := do
  let a ← hexValue a
  let b ← hexValue b
  let c ← hexValue c
  let d ← hexValue d
  some (((a * 16 + b) * 16 + c) * 16 + d)

/-- The letters that stand for a character after a backslash. -/
def escapes : List (ℕ × ℕ) :=
  [(34, 34), (92, 92), (98, 8), (102, 12), (110, 10), (114, 13), (116, 9)]

/-- What a backslash and a letter stand for. -/
def shortEscape (letter : ℕ) : Option ℕ :=
  (((47, 47) :: escapes).find? fun escape => escape.1 = letter).map Prod.snd

def isHighSurrogate (point : ℕ) : Bool := decide (0xD800 ≤ point ∧ point ≤ 0xDBFF)

def isLowSurrogate (point : ℕ) : Bool := decide (0xDC00 ≤ point ∧ point ≤ 0xDFFF)

/-- One more point of a string. -/
def push (point : ℕ) (scanned : Scanned Points) : Scanned Points :=
  scanned.map fun result => (point :: result.1, result.2)

/-- A string, after its opening quote: two surrogates that are escaped one after the other
are one point. -/
def scanString : Points → Scanned Points
  | [] => .error .value
  | point :: rest =>
      if point = 34 then .ok ([], rest)
      else if point = 92 then
        match rest with
        | [] => .error .value
        | escape :: rest =>
            if escape = 117 then
              match rest with
              | a :: b :: c :: d :: rest =>
                  match hexValue4 a b c d with
                  | none => .error .value
                  | some high =>
                      match rest with
                      | slash :: u :: e :: f :: g :: h :: after =>
                          if isHighSurrogate high ∧ slash = 92 ∧ u = 117 then
                            match hexValue4 e f g h with
                            | none => .error .value
                            | some low =>
                                if isLowSurrogate low then
                                  push (0x10000 + (high - 0xD800) * 0x400 + (low - 0xDC00))
                                    (scanString after)
                                else push high (scanString (slash :: u :: e :: f :: g :: h ::
                                  after))
                          else push high (scanString (slash :: u :: e :: f :: g :: h :: after))
                      | short => push high (scanString short)
              | _ => .error .value
            else
              match shortEscape escape with
              | none => .error .value
              | some escaped => push escaped (scanString rest)
      else if point < 32 then .error .value
      else push point (scanString rest)

/-- The value of a run of digits. -/
def digitsValue (digits : Points) : ℕ :=
  digits.foldl (fun value digit => value * 10 + (digit - 48)) 0

/-- The most digits of an integer. -/
def maxIntDigits : ℕ := 4300

/-- The digits of an integer without a sign, and what is left. -/
def scanDigits : Points → Option (Points × Points)
  | [] => none
  | point :: rest =>
      if point = 48 then some ([48], rest)
      else if 49 ≤ point ∧ point ≤ 57 then
        some (point :: rest.takeWhile isDigit, rest.dropWhile isDigit)
      else none

/-- A mark, a sign where one may follow, and the digits after it, if there are any. -/
def scanTail (isMark isSign : ℕ → Bool) : Points → Points × Points
  | [] => ([], [])
  | point :: rest =>
      let sign := (rest.take 1).filter isSign
      let digits := (rest.drop sign.length).takeWhile isDigit
      if isMark point ∧ digits ≠ [] then
        (point :: sign ++ digits, (rest.drop sign.length).dropWhile isDigit)
      else ([], point :: rest)

/-- A number. -/
def scanNumber (text : Points) : Scanned Value :=
  let negative := text.head? = some 45
  match scanDigits (if negative then text.drop 1 else text) with
  | none => .error .value
  | some (digits, rest) =>
      let sign : Points := if negative then [45] else []
      let fraction := scanTail (fun point => point = 46) (fun _ => false) rest
      let exponent := scanTail (fun point => point = 101 ∨ point = 69)
        (fun point => point = 43 ∨ point = 45) fraction.2
      if fraction.1 = [] ∧ exponent.1 = [] then
        if maxIntDigits < digits.length then .error .value
        else
          .ok (.int (if negative then -(digitsValue digits) else digitsValue digits), rest)
      else .ok (.float (sign ++ digits ++ fraction.1 ++ exponent.1), exponent.2)

/-- The names of values. -/
def names : List (Points × Value) :=
  [(ofChars ['n', 'u', 'l', 'l'], .null), (ofChars ['t', 'r', 'u', 'e'], .bool true),
   (ofChars ['f', 'a', 'l', 's', 'e'], .bool false),
   (ofChars ['N', 'a', 'N'], .float (ofChars ['N', 'a', 'N'])),
   (ofChars ['I', 'n', 'f', 'i', 'n', 'i', 't', 'y'],
    .float (ofChars ['I', 'n', 'f', 'i', 'n', 'i', 't', 'y'])),
   (ofChars ['-', 'I', 'n', 'f', 'i', 'n', 'i', 't', 'y'],
    .float (ofChars ['-', 'I', 'n', 'f', 'i', 'n', 'i', 't', 'y']))]

/-- A name or a number. -/
def scanScalar (text : Points) : Scanned Value :=
  match names.find? fun name => name.1.isPrefixOf text with
  | some name => .ok (name.2, text.drop name.1.length)
  | none => scanNumber text

/-- Elements with commas between them up to a closing mark; there is at least one. -/
def scanElements {Result : Type} (close : ℕ) (element : Points → Except Error (Result × Points)) :
    ℕ → Points → Except Error (List Result × Points)
  | 0, _ => .error .value
  | fuel + 1, text =>
      match element text with
      | .error error => .error error
      | .ok (result, rest) =>
          match skipSpace rest with
          | [] => .error .value
          | mark :: rest =>
              if mark = close then .ok ([result], rest)
              else if mark = 44 then
                (scanElements close element fuel (skipSpace rest)).map fun scanned =>
                  (result :: scanned.1, scanned.2)
              else .error .value

/-- A key, a colon and a value. -/
def scanField (item : Points → Scanned Value) :
    Points → Except Error ((Points × Value) × Points)
  | [] => .error .value
  | quote :: text =>
      if quote = 34 then
        match scanString text with
        | .error error => .error error
        | .ok (key, rest) =>
            match skipSpace rest with
            | [] => .error .value
            | colon :: rest =>
                if colon = 58 then
                  (item (skipSpace rest)).map fun scanned => ((key, scanned.1), scanned.2)
                else .error .value
      else .error .value

/-- A field is set: in its place, or at the end. -/
def setField (fields : List (Points × Value)) (field : Points × Value) : List (Points × Value) :=
  if fields.any fun old => old.1 = field.1 then
    fields.map fun old => if old.1 = field.1 then field else old
  else fields ++ [field]

/-- The items of an array. -/
def scanArray (item : Points → Scanned Value) (text : Points) : Scanned Value :=
  if (skipSpace text).head? = some 93 then .ok (.list [], (skipSpace text).drop 1)
  else
    (scanElements 93 item text.length (skipSpace text)).map fun scanned =>
      (.list scanned.1, scanned.2)

/-- The fields of an object. -/
def scanObject (item : Points → Scanned Value) (text : Points) : Scanned Value :=
  if (skipSpace text).head? = some 125 then .ok (.dict [], (skipSpace text).drop 1)
  else
    (scanElements 125 (scanField item) text.length (skipSpace text)).map fun scanned =>
      (.dict (scanned.1.foldl setField []), scanned.2)

/-- A value, with the scanner of what it contains, unless no container may be entered. -/
def scanValue (item? : Option (Points → Scanned Value)) : Points → Scanned Value
  | [] => .error .value
  | point :: rest =>
      if point = 34 then (scanString rest).map fun scanned => (.str scanned.1, scanned.2)
      else if point = 123 then
        match item? with
        | none => .error .recursion
        | some item => scanObject item rest
      else if point = 91 then
        match item? with
        | none => .error .recursion
        | some item => scanArray item rest
      else scanScalar (point :: rest)

/-- A value with containers to a depth. -/
def scanOnce : ℕ → Points → Scanned Value
  | 0 => scanValue none
  | depth + 1 => scanValue (some (scanOnce depth))

/-- `json.loads`. -/
def loads (depth : ℕ) (text : Points) : Except Error Value :=
  if text.head? = some 0xFEFF then .error .value
  else
    match scanOnce depth (skipSpace text) with
    | .error error => .error error
    | .ok (value, rest) => if skipSpace rest = [] then .ok value else .error .value

variable {point : ℕ} {text : Points} {fields : List (Points × Points)}

/-! ## Writing -/

def hexDigit (digit : ℕ) : ℕ := if digit < 10 then 48 + digit else 87 + digit

/-- `\\u` and four digits. -/
def unicodeEscape (point : ℕ) : Points :=
  [92, 117, hexDigit (point / 4096), hexDigit (point / 256 % 16), hexDigit (point / 16 % 16),
    hexDigit (point % 16)]

/-- A point of a string, in ASCII. -/
def encodePoint (point : ℕ) : Points :=
  match escapes.find? fun escape => escape.2 = point with
  | some escape => [92, escape.1]
  | none =>
      if 32 ≤ point ∧ point ≤ 126 then [point]
      else if point < 0x10000 then unicodeEscape point
      else
        unicodeEscape (0xD800 + (point - 0x10000) / 0x400) ++
          unicodeEscape (0xDC00 + (point - 0x10000) % 0x400)

/-- A string after its opening quote. -/
def encodeString (text : Points) : Points := text.flatMap encodePoint ++ [34]

def encodeField (field : Points × Points) : Points :=
  34 :: encodeString field.1 ++ 58 :: 34 :: encodeString field.2

/-- The fields of an object after its opening brace. -/
def encodeFields : List (Points × Points) → Points
  | [] => [125]
  | [field] => encodeField field ++ [125]
  | field :: rest => encodeField field ++ 44 :: encodeFields rest

/-- `json.dumps` of an object of strings, with no space between its parts. -/
def dumps (fields : List (Points × Points)) : Points := 123 :: encodeFields fields

/-! ## What is written reads back -/

/-- A point that stands for a character. -/
def Scalar (point : ℕ) : Prop := point < 0xD800 ∨ (0xE000 ≤ point ∧ point < 0x110000)

theorem hexValue_hexDigit : ∀ digit < 16, hexValue (hexDigit digit) = some digit := by
  decide

theorem hexValue4_digits (hpoint : point < 0x10000) :
    hexValue4 (hexDigit (point / 4096)) (hexDigit (point / 256 % 16))
      (hexDigit (point / 16 % 16)) (hexDigit (point % 16)) = some point := by
  rw [hexValue4, hexValue_hexDigit _ (by omega), hexValue_hexDigit _ (by omega),
    hexValue_hexDigit _ (by omega), hexValue_hexDigit _ (by omega)]
  simp only [Option.bind_eq_bind, Option.bind_some, Option.some.injEq]
  omega

/-- An escaped point that is no surrogate. -/
theorem scanString_unicodeEscape (hpoint : point < 0x10000)
    (hhigh : isHighSurrogate point = false) (rest : Points) :
    scanString (unicodeEscape point ++ rest) = push point (scanString rest) := by
  simp only [unicodeEscape, List.cons_append, List.nil_append]
  rw [scanString, if_neg (by decide), if_pos rfl]
  simp only [if_true, hexValue4_digits hpoint, hhigh, Bool.false_eq_true, false_and, if_false]
  split
  · rfl
  · rfl

/-- Two surrogates that stand for a point. -/
theorem scanString_surrogates (hlarge : 0x10000 ≤ point) (hpoint : point < 0x110000)
    (rest : Points) :
    scanString (unicodeEscape (0xD800 + (point - 0x10000) / 0x400) ++
        unicodeEscape (0xDC00 + (point - 0x10000) % 0x400) ++ rest) =
      push point (scanString rest) := by
  have hhigh : isHighSurrogate (0xD800 + (point - 0x10000) / 0x400) = true :=
    decide_eq_true (by omega)
  have hlow : isLowSurrogate (0xDC00 + (point - 0x10000) % 0x400) = true :=
    decide_eq_true (by omega)
  have hjoined : 0x10000 + (0xD800 + (point - 0x10000) / 0x400 - 0xD800) * 0x400 +
      (0xDC00 + (point - 0x10000) % 0x400 - 0xDC00) = point := by
    omega
  simp only [unicodeEscape, List.cons_append, List.nil_append]
  rw [scanString, if_neg (by decide), if_pos rfl]
  simp only [if_true]
  rw [hexValue4_digits (by omega)]
  simp only [hhigh, and_self, if_true]
  rw [hexValue4_digits (by omega)]
  simp only [hlow, if_true, hjoined]

theorem shortEscape_mem :
    ∀ escape ∈ escapes, shortEscape escape.1 = some escape.2 ∧ escape.1 ≠ 117 := by
  decide

/-- The letters cover the quote and the backslash. -/
theorem escapes_find?_none
    (hnone : escapes.find? (fun escape => decide (escape.2 = point)) = none) :
    point ≠ 34 ∧ point ≠ 92 := by
  have hall := List.find?_eq_none.mp hnone
  constructor
  · rintro rfl
    exact absurd (hall (34, 34) (by decide)) (by decide)
  · rintro rfl
    exact absurd (hall (92, 92) (by decide)) (by decide)

/-- A point reads back. -/
theorem scanString_encodePoint (hscalar : Scalar point) (rest : Points) :
    scanString (encodePoint point ++ rest) = push point (scanString rest) := by
  rw [encodePoint]
  split
  · rename_i escape hescape
    have hpoint : escape.2 = point := by simpa using List.find?_some hescape
    obtain ⟨hshort, hother⟩ := shortEscape_mem escape (List.mem_of_find?_eq_some hescape)
    rw [hpoint] at hshort
    simp only [List.cons_append, List.nil_append]
    rw [scanString.eq_def]
    simp only [if_neg (show ¬ 92 = 34 by decide), if_true, if_neg hother, hshort]
  · rename_i hnone
    obtain ⟨hquote, hslash⟩ := escapes_find?_none hnone
    split
    · rename_i hprintable
      rw [List.singleton_append, scanString.eq_def]
      simp only [if_neg hquote, if_neg hslash, if_neg (Nat.not_lt.mpr hprintable.1)]
    · split
      · rename_i hsmall
        apply scanString_unicodeEscape hsmall
        apply decide_eq_false
        rw [Scalar] at hscalar
        omega
      · rename_i hlarge
        apply scanString_surrogates (Nat.not_lt.mp hlarge)
        rw [Scalar] at hscalar
        omega

/-- A string reads back. -/
theorem scanString_encodeString (hscalar : ∀ point ∈ text, Scalar point)
    (rest : Points) : scanString (encodeString text ++ rest) = .ok (text, rest) := by
  induction text with
  | nil =>
      rw [encodeString, List.flatMap_nil, List.nil_append, List.singleton_append, scanString.eq_def]
      rfl
  | cons point text ih =>
      have hrest := ih fun later hlater => hscalar later (List.mem_cons_of_mem _ hlater)
      rw [encodeString, List.append_assoc] at hrest
      rw [encodeString, List.flatMap_cons, List.append_assoc, List.append_assoc,
        scanString_encodePoint (hscalar point List.mem_cons_self), hrest]
      rfl

/-- The strings of a field stand for characters. -/
def ScalarField (field : Points × Points) : Prop :=
  (∀ point ∈ field.1, Scalar point) ∧ ∀ point ∈ field.2, Scalar point

theorem skipSpace_cons (hpoint : point ≠ 32 ∧ point ≠ 9 ∧ point ≠ 10 ∧ point ≠ 13)
    (rest : Points) : skipSpace (point :: rest) = point :: rest := by
  rw [skipSpace, List.dropWhile_cons_of_neg]
  simpa using hpoint

theorem scanOnce_string (depth : ℕ) (hscalar : ∀ point ∈ text, Scalar point) (rest : Points) :
    scanOnce depth (34 :: (encodeString text ++ rest)) = .ok (.str text, rest) := by
  cases depth with
  | zero | succ =>
      rw [scanOnce, scanValue.eq_def]
      simp only [if_true, scanString_encodeString hscalar]
      rfl

/-- A field reads back. -/
theorem scanField_encodeField (depth : ℕ) {field : Points × Points}
    (hscalar : ScalarField field) (rest : Points) :
    scanField (scanOnce depth) (encodeField field ++ rest) =
      .ok ((field.1, .str field.2), rest) := by
  have hkey := scanString_encodeString hscalar.1 (58 :: 34 :: (encodeString field.2 ++ rest))
  have hcolon := @skipSpace_cons 58 (by decide) (34 :: (encodeString field.2 ++ rest))
  have hquote := @skipSpace_cons 34 (by decide) (encodeString field.2 ++ rest)
  simp only [encodeField, List.cons_append, List.append_assoc]
  rw [scanField, if_pos rfl, hkey]
  simp only [hcolon, if_true, hquote, scanOnce_string depth hscalar.2]
  rfl

/-- The fields of an object read back. -/
theorem scanElements_encodeFields (depth : ℕ)
    (hscalar : ∀ field ∈ fields, ScalarField field) (hfields : fields ≠ []) {fuel : ℕ}
    (hfuel : fields.length ≤ fuel) (rest : Points) :
    scanElements 125 (scanField (scanOnce depth)) fuel (encodeFields fields ++ rest) =
      .ok (fields.map fun field => (field.1, .str field.2), rest) := by
  induction fields generalizing fuel with
  | nil => exact absurd rfl hfields
  | cons field more ih =>
      obtain ⟨fuel, rfl⟩ : ∃ less, fuel = less + 1 :=
        ⟨fuel - 1, by rw [List.length_cons] at hfuel; omega⟩
      have hfield := hscalar field List.mem_cons_self
      rw [scanElements]
      cases more with
      | nil =>
          have hclose := @skipSpace_cons 125 (by decide) rest
          simp only [encodeFields, List.append_assoc, List.singleton_append,
            scanField_encodeField depth hfield, hclose, if_true]
          rfl
      | cons next later =>
          have hcomma := @skipSpace_cons 44 (by decide)
            (encodeFields (next :: later) ++ rest)
          have hnext : skipSpace (encodeFields (next :: later) ++ rest) =
              encodeFields (next :: later) ++ rest := by
            cases later <;> exact skipSpace_cons (by decide) _
          have hless : (next :: later).length ≤ fuel := by
            rw [List.length_cons] at hfuel
            omega
          have hrest := ih (fun other hother => hscalar other (List.mem_cons_of_mem _ hother))
            (List.cons_ne_nil _ _) hless
          simp only [encodeFields, List.append_assoc, List.cons_append,
            scanField_encodeField depth hfield, hcomma, hnext, hrest]
          rfl

/-- Setting fields with different keys appends them. -/
theorem foldl_setField {fields new : List (Points × Value)}
    (hnodup : ((fields ++ new).map Prod.fst).Nodup) :
    new.foldl setField fields = fields ++ new := by
  induction new generalizing fields with
  | nil => rw [List.foldl_nil, List.append_nil]
  | cons field rest ih =>
      have hfresh : (fields.any fun old => decide (old.1 = field.1)) = false := by
        rw [List.any_eq_false]
        intro old hold
        rw [List.map_append, List.nodup_append] at hnodup
        exact decide_eq_true_iff.not.mpr
          (hnodup.2.2 old.1 (List.mem_map_of_mem hold) field.1 (by simp))
      rw [List.foldl_cons, setField, hfresh]
      have hassoc : fields ++ field :: rest = fields ++ [field] ++ rest := by simp
      rw [hassoc] at hnodup ⊢
      exact ih hnodup

theorem length_encodeFields (fields : List (Points × Points)) :
    fields.length ≤ (encodeFields fields).length := by
  induction fields with
  | nil => exact Nat.zero_le _
  | cons field rest ih =>
      cases rest with
      | nil => simp [encodeFields]
      | cons next later =>
          simp only [encodeFields, List.length_append, List.length_cons] at ih ⊢
          omega

/-- An object of strings reads back. -/
theorem loads_dumps (depth : ℕ) (hscalar : ∀ field ∈ fields, ScalarField field)
    (hnodup : (fields.map Prod.fst).Nodup) :
    loads (depth + 1) (dumps fields) =
      .ok (.dict (fields.map fun field => (field.1, .str field.2))) := by
  have hkeys : ((fields.map fun field : Points × Points =>
      (field.1, Value.str field.2)).map Prod.fst).Nodup := by
    rw [List.map_map]
    exact hnodup
  have hobject : scanObject (scanOnce depth) (encodeFields fields) =
      .ok (.dict (fields.map fun field => (field.1, .str field.2)), []) := by
    cases fields with
    | nil => rfl
    | cons field rest =>
        have hspace : skipSpace (encodeFields (field :: rest)) =
            encodeFields (field :: rest) := by
          cases rest <;> exact skipSpace_cons (by decide) _
        have hopen : (encodeFields (field :: rest)).head? ≠ some 125 := by
          cases rest <;> simp [encodeFields, encodeField]
        have hscan := scanElements_encodeFields depth hscalar (List.cons_ne_nil _ _)
          (length_encodeFields (field :: rest)) []
        rw [List.append_nil] at hscan
        rw [scanObject, hspace, if_neg hopen, hscan]
        simp only [Except.map]
        rw [foldl_setField (by rw [List.nil_append]; exact hkeys), List.nil_append]
  have hspace : skipSpace (dumps fields) = dumps fields := skipSpace_cons (by decide) _
  have hscan : scanOnce (depth + 1) (dumps fields) =
      .ok (.dict (fields.map fun field => (field.1, .str field.2)), []) := by
    rw [scanOnce, dumps, scanValue.eq_def]
    simp only [if_neg (show ¬ 123 = 34 by decide), if_true, hobject]
  rw [loads, if_neg (by simp [dumps]), hspace, hscan]
  exact if_pos rfl

/-! ## Written text is ASCII -/

theorem hexDigit_ascii {digit : ℕ} (hdigit : digit < 16) : hexDigit digit < 128 := by
  unfold hexDigit
  split <;> omega

theorem unicodeEscape_ascii (hpoint : point < 0x10000) :
    ∀ written ∈ unicodeEscape point, written < 128 := by
  have hfirst := @hexDigit_ascii (point / 4096) (by omega)
  have hsecond := @hexDigit_ascii (point / 256 % 16) (by omega)
  have hthird := @hexDigit_ascii (point / 16 % 16) (by omega)
  have hfourth := @hexDigit_ascii (point % 16) (by omega)
  intro written hwritten
  simp only [unicodeEscape, List.mem_cons, List.not_mem_nil, or_false] at hwritten
  omega

theorem encodePoint_ascii (hscalar : Scalar point) :
    ∀ written ∈ encodePoint point, written < 128 := by
  intro written hwritten
  rw [encodePoint] at hwritten
  split at hwritten
  · rename_i escape hescape
    have hletters : ∀ escape ∈ escapes, escape.1 < 128 := by decide
    have hletter := hletters escape (List.mem_of_find?_eq_some hescape)
    simp only [List.mem_cons, List.not_mem_nil, or_false] at hwritten
    omega
  · split at hwritten
    · rw [List.mem_singleton] at hwritten
      omega
    · split at hwritten
      · exact unicodeEscape_ascii (by omega) written hwritten
      · rw [Scalar] at hscalar
        rw [List.mem_append] at hwritten
        cases hwritten with
        | inl hhigh => exact unicodeEscape_ascii (by omega) written hhigh
        | inr hlow => exact unicodeEscape_ascii (by omega) written hlow

theorem encodeString_ascii (hscalar : ∀ point ∈ text, Scalar point) :
    ∀ written ∈ encodeString text, written < 128 := by
  intro written hwritten
  rw [encodeString, List.mem_append, List.mem_flatMap, List.mem_singleton] at hwritten
  cases hwritten with
  | inl hbody =>
      obtain ⟨point, hpoint, hwritten⟩ := hbody
      exact encodePoint_ascii (hscalar point hpoint) written hwritten
  | inr hquote => omega

theorem encodeField_ascii {field : Points × Points} (hscalar : ScalarField field) :
    ∀ written ∈ encodeField field, written < 128 := by
  intro written hwritten
  simp only [encodeField, List.mem_cons, List.mem_append] at hwritten
  rcases hwritten with (rfl | hkey) | rfl | rfl | hvalue
  · decide
  · exact encodeString_ascii hscalar.1 written hkey
  · decide
  · decide
  · exact encodeString_ascii hscalar.2 written hvalue

/-- What is written is ASCII. -/
theorem dumps_ascii (hscalar : ∀ field ∈ fields, ScalarField field) :
    ∀ written ∈ dumps fields, written < 128 := by
  have hfields : ∀ written ∈ encodeFields fields, written < 128 := by
    induction fields with
    | nil => simp [encodeFields]
    | cons field rest ih =>
        intro written hwritten
        have hhere := encodeField_ascii (hscalar field List.mem_cons_self)
        cases rest with
        | nil =>
            rw [encodeFields, List.mem_append, List.mem_singleton] at hwritten
            cases hwritten with
            | inl hfield => exact hhere written hfield
            | inr hclose => omega
        | cons next later =>
            simp only [encodeFields, List.mem_append, List.mem_cons] at hwritten
            rcases hwritten with hfield | rfl | hlater
            · exact hhere written hfield
            · decide
            · exact ih (fun other hother => hscalar other (List.mem_cons_of_mem _ hother))
                written hlater
  intro written hwritten
  rw [dumps, List.mem_cons] at hwritten
  cases hwritten with
  | inl hopen => omega
  | inr hrest => exact hfields written hrest

theorem scalar_of_lt (hpoint : point < 128) : Scalar point :=
  Or.inl (by omega)

/-- The points of characters stand for characters. -/
theorem scalar_ofChars (text : List Char) : ∀ point ∈ ofChars text, Scalar point := by
  intro point hpoint
  obtain ⟨character, -, rfl⟩ := List.mem_map.mp hpoint
  have hvalid := character.valid
  rw [Scalar]
  unfold UInt32.isValidChar Nat.isValidChar at hvalid
  rw [Char.toNat]
  omega

end Coding.Json
