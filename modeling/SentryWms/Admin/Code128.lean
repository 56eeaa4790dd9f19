import Mathlib.Algebra.GroupWithZero.Nat
import SentryWms.Coding.BlockCode
import SentryWms.Relational.Run

/-!
# The barcode of the picking ticket

`encodeCode128B` draws an order number in subset B of Code 128: a start symbol, one
symbol a character, a checksum symbol and the stop pattern, each a run of bars and spaces
of given widths.  What it draws reads back as what was put in.
-/

namespace SentryWms.Admin

open Relational Coding

/-! ## The encoder -/

/-- `PATTERNS`: the module widths of each symbol, starting with a bar. -/
def patterns : List (List ℕ) :=
  [ [2, 1, 2, 2, 2, 2], [2, 2, 2, 1, 2, 2], [2, 2, 2, 2, 2, 1], [1, 2, 1, 2, 2, 3],
    [1, 2, 1, 3, 2, 2], [1, 3, 1, 2, 2, 2], [1, 2, 2, 2, 1, 3], [1, 2, 2, 3, 1, 2],
    [1, 3, 2, 2, 1, 2], [2, 2, 1, 2, 1, 3], [2, 2, 1, 3, 1, 2], [2, 3, 1, 2, 1, 2],
    [1, 1, 2, 2, 3, 2], [1, 2, 2, 1, 3, 2], [1, 2, 2, 2, 3, 1], [1, 1, 3, 2, 2, 2],
    [1, 2, 3, 1, 2, 2], [1, 2, 3, 2, 2, 1], [2, 2, 3, 2, 1, 1], [2, 2, 1, 1, 3, 2],
    [2, 2, 1, 2, 3, 1], [2, 1, 3, 2, 1, 2], [2, 2, 3, 1, 1, 2], [3, 1, 2, 1, 3, 1],
    [3, 1, 1, 2, 2, 2], [3, 2, 1, 1, 2, 2], [3, 2, 1, 2, 2, 1], [3, 1, 2, 2, 1, 2],
    [3, 2, 2, 1, 1, 2], [3, 2, 2, 2, 1, 1], [2, 1, 2, 1, 2, 3], [2, 1, 2, 3, 2, 1],
    [2, 3, 2, 1, 2, 1], [1, 1, 1, 3, 2, 3], [1, 3, 1, 1, 2, 3], [1, 3, 1, 3, 2, 1],
    [1, 1, 2, 3, 1, 3], [1, 3, 2, 1, 1, 3], [1, 3, 2, 3, 1, 1], [2, 1, 1, 3, 1, 3],
    [2, 3, 1, 1, 1, 3], [2, 3, 1, 3, 1, 1], [1, 1, 2, 1, 3, 3], [1, 1, 2, 3, 3, 1],
    [1, 3, 2, 1, 3, 1], [1, 1, 3, 1, 2, 3], [1, 1, 3, 3, 2, 1], [1, 3, 3, 1, 2, 1],
    [3, 1, 3, 1, 2, 1], [2, 1, 1, 3, 3, 1], [2, 3, 1, 1, 3, 1], [2, 1, 3, 1, 1, 3],
    [2, 1, 3, 3, 1, 1], [2, 1, 3, 1, 3, 1], [3, 1, 1, 1, 2, 3], [3, 1, 1, 3, 2, 1],
    [3, 3, 1, 1, 2, 1], [3, 1, 2, 1, 1, 3], [3, 1, 2, 3, 1, 1], [3, 3, 2, 1, 1, 1],
    [3, 1, 4, 1, 1, 1], [2, 2, 1, 4, 1, 1], [4, 3, 1, 1, 1, 1], [1, 1, 1, 2, 2, 4],
    [1, 1, 1, 4, 2, 2], [1, 2, 1, 1, 2, 4], [1, 2, 1, 4, 2, 1], [1, 4, 1, 1, 2, 2],
    [1, 4, 1, 2, 2, 1], [1, 1, 2, 2, 1, 4], [1, 1, 2, 4, 1, 2], [1, 2, 2, 1, 1, 4],
    [1, 2, 2, 4, 1, 1], [1, 4, 2, 1, 1, 2], [1, 4, 2, 2, 1, 1], [2, 4, 1, 2, 1, 1],
    [2, 2, 1, 1, 1, 4], [4, 1, 3, 1, 1, 1], [2, 4, 1, 1, 1, 2], [1, 3, 4, 1, 1, 1],
    [1, 1, 1, 2, 4, 2], [1, 2, 1, 1, 4, 2], [1, 2, 1, 2, 4, 1], [1, 1, 4, 2, 1, 2],
    [1, 2, 4, 1, 1, 2], [1, 2, 4, 2, 1, 1], [4, 1, 1, 2, 1, 2], [4, 2, 1, 1, 1, 2],
    [4, 2, 1, 2, 1, 1], [2, 1, 2, 1, 4, 1], [2, 1, 4, 1, 2, 1], [4, 1, 2, 1, 2, 1],
    [1, 1, 1, 1, 4, 3], [1, 1, 1, 3, 4, 1], [1, 3, 1, 1, 4, 1], [1, 1, 4, 1, 1, 3],
    [1, 1, 4, 3, 1, 1], [4, 1, 1, 1, 1, 3], [4, 1, 1, 3, 1, 1], [1, 1, 3, 1, 4, 1],
    [1, 1, 4, 1, 3, 1], [3, 1, 1, 1, 4, 1], [4, 1, 1, 1, 3, 1], [2, 1, 1, 4, 1, 2],
    [2, 1, 1, 2, 1, 4], [2, 1, 1, 2, 3, 2]
  ]

/-- `STOP_PATTERN`. -/
def stopPattern : List ℕ := [2, 3, 3, 1, 1, 1, 2]

/-- `START_B`. -/
def startB : ℕ := 104

/-- The code units of a text. -/
abbrev Text := List UInt16

def isHighSurrogate (unit : UInt16) : Bool := 0xD800 ≤ unit ∧ unit ≤ 0xDBFF

def isLowSurrogate (unit : UInt16) : Bool := 0xDC00 ≤ unit ∧ unit ≤ 0xDFFF

/-- `ch.charCodeAt(0)` for each `ch of text`: a surrogate pair is one character. -/
def charCodes : Text → List UInt16
  | [] => []
  | [unit] => [unit]
  | high :: low :: rest =>
      if isHighSurrogate high ∧ isLowSurrogate low then high :: charCodes rest
      else high :: charCodes (low :: rest)

/-- The symbol of a character; outside subset B it is that of `'?'`. -/
def symbolValue (code : UInt16) : ℕ :=
  if 32 ≤ code ∧ code ≤ 127 then code.toNat - 32 else 63 - 32

/-- The loop over `values` from index 1, and `checksum %= 103`. -/
def checksumOf (values : List ℕ) : ℕ :=
  run (fun checksum numbered => checksum + numbered.1 * numbered.2) startB
    ((values.drop 1).zipIdx 1) % 103

structure Segment where
  width : ℕ
  black : Bool
  deriving DecidableEq, Repr

structure Encoded where
  segments : List Segment
  totalModules : ℕ
  deriving DecidableEq, Repr

/-- One bar or space; the first of a pattern is a bar. -/
def pushModule (encoded : Encoded) (numbered : ℕ × ℕ) : Encoded where
  segments := encoded.segments ++ [⟨numbered.1, numbered.2 % 2 = 0⟩]
  totalModules := encoded.totalModules + numbered.1

def pushPattern (encoded : Encoded) (pattern : List ℕ) : Encoded :=
  run pushModule encoded pattern.zipIdx

/-- The symbols one after another; a value without a pattern throws. -/
def pushValues : List ℕ → Encoded → Option Encoded
  | [], encoded => some encoded
  | value :: rest, encoded => do
      let pattern ← patterns[value]?
      pushValues rest (pushPattern encoded pattern)

/-- `encodeCode128B`. -/
def encodeCode128B (text : Text) : Option Encoded :=
  if text = [] then some ⟨[], 0⟩
  else do
    let values := startB :: (charCodes text).map symbolValue
    let drawn ← pushValues (values ++ [checksumOf values]) ⟨[], 0⟩
    pure (pushPattern drawn stopPattern)

/-! ## What a scanner reads -/

/-- The symbology: words of six widths, closed by the stop pattern. -/
def code128 : BlockCode ℕ where
  words := patterns
  width := 6
  terminator := stopPattern
  width_pos := by decide
  words_length := by decide
  words_nodup := by decide +kernel
  terminator_free := by decide

/-- Bars and spaces alternate. -/
def Alternates : Bool → List Bool → Prop
  | _, [] => True
  | black, first :: rest => first = black ∧ Alternates (!black) rest

/-- The widths a scanner measures. -/
def Encoded.widths (encoded : Encoded) : List ℕ := encoded.segments.map Segment.width

/-- What is printed for a character. -/
def printed (code : UInt16) : UInt16 :=
  if 32 ≤ code ∧ code ≤ 127 then code else 63

/-- The weighted sum of the symbology: a symbol counts as often as its place says. -/
def weightedSum (values : List ℕ) : ℕ :=
  ((values.zipIdx 1).map fun numbered => numbered.1 * numbered.2).sum

/-- Every character of the text is in subset B. -/
def Printable (text : Text) : Prop := ∀ unit ∈ text, 32 ≤ unit ∧ unit ≤ 127

/-- The drawing reads back as the text between the start, the checksum and the stop. -/
structure Readable (text : Text) (encoded : Encoded) (checksum : ℕ) : Prop where
  alternates : Alternates true (encoded.segments.map Segment.black)
  read : code128.decode encoded.widths =
    some (startB :: ((charCodes text).map fun code => (printed code).toNat - 32) ++ [checksum])
  unambiguous : ∀ symbols, code128.InTable symbols →
    code128.encode symbols = encoded.widths →
      symbols = startB :: ((charCodes text).map fun code => (printed code).toNat - 32) ++ [checksum]
  checksum_lt : checksum < 103
  checksum_eq : checksum = (startB + weightedSum ((charCodes text).map fun code =>
    (printed code).toNat - 32)) % 103
  total : encoded.totalModules = encoded.widths.sum
  modules : encoded.totalModules = 11 * ((charCodes text).length + 2) + 13

theorem symbolValue_eq (code : UInt16) : symbolValue code = (printed code).toNat - 32 := by
  unfold symbolValue printed
  by_cases hprintable : 32 ≤ code ∧ code ≤ 127
  · rw [if_pos hprintable, if_pos hprintable]
  · rw [if_neg hprintable, if_neg hprintable]
    rfl

theorem printed_bounds (code : UInt16) :
    32 ≤ (printed code).toNat ∧ (printed code).toNat ≤ 127 := by
  unfold printed
  by_cases hprintable : 32 ≤ code ∧ code ≤ 127
  · rw [if_pos hprintable]
    exact ⟨UInt16.le_iff_toNat_le.mp hprintable.1, UInt16.le_iff_toNat_le.mp hprintable.2⟩
  · rw [if_neg hprintable]
    decide

theorem checksumOf_eq (values : List ℕ) :
    checksumOf (startB :: values) = (startB + weightedSum values) % 103 := by
  have hrun : ∀ (numbered : List (ℕ × ℕ)) (sum : ℕ),
      run (fun checksum numbered => checksum + numbered.1 * numbered.2) sum numbered =
        sum + (numbered.map fun numbered => numbered.1 * numbered.2).sum := by
    intro numbered
    induction numbered with
    | nil => exact fun sum => rfl
    | cons first rest ih =>
        intro sum
        rw [List.map_cons, List.sum_cons, ← Nat.add_assoc]
        exact ih _
  rw [checksumOf, hrun]
  rfl

/-! ## Drawing -/

/-- The bars of a drawing. -/
def Encoded.bars (encoded : Encoded) : List Bool := encoded.segments.map Segment.black

/-- The bars and spaces of a pattern, from a place in it on. -/
def barsFrom (place : ℕ) (pattern : List ℕ) : List Bool :=
  (pattern.zipIdx place).map fun numbered => numbered.2 % 2 = 0

theorem pushModules_eq (pattern : List ℕ) (place : ℕ) (encoded : Encoded) :
    (run pushModule encoded (pattern.zipIdx place)).widths = encoded.widths ++ pattern ∧
      (run pushModule encoded (pattern.zipIdx place)).bars =
        encoded.bars ++ barsFrom place pattern ∧
      (run pushModule encoded (pattern.zipIdx place)).totalModules =
        encoded.totalModules + pattern.sum := by
  induction pattern generalizing place encoded with
  | nil => simp [run, barsFrom]
  | cons width rest ih =>
      obtain ⟨hwidths, hbars, htotal⟩ := ih (place + 1) (pushModule encoded (width, place))
      rw [List.zipIdx_cons]
      refine ⟨hwidths.trans ?_, hbars.trans ?_, htotal.trans ?_⟩
      · simp [Encoded.widths, pushModule]
      · simp [Encoded.bars, pushModule, barsFrom]
      · rw [pushModule, List.sum_cons, Nat.add_assoc]

theorem alternates_append (black : Bool) (front back : List Bool) :
    Alternates black (front ++ back) ↔
      Alternates black front ∧
        Alternates (if front.length % 2 = 0 then black else !black) back := by
  induction front generalizing black with
  | nil => simp [Alternates]
  | cons first rest ih =>
      rw [List.cons_append, Alternates, Alternates, ih, List.length_cons, and_assoc]
      have hparity : (if rest.length % 2 = 0 then !black else !!black) =
          if (rest.length + 1) % 2 = 0 then black else !black := by
        by_cases heven : rest.length % 2 = 0
        · rw [if_pos heven, if_neg (by omega)]
        · rw [if_neg heven, if_pos (by omega), Bool.not_not]
      rw [hparity]

theorem alternates_barsFrom (pattern : List ℕ) (place : ℕ) :
    Alternates (place % 2 = 0) (barsFrom place pattern) := by
  induction pattern generalizing place with
  | nil => trivial
  | cons width rest ih =>
      refine ⟨rfl, ?_⟩
      have hnext := ih (place + 1)
      have hparity : (decide ((place + 1) % 2 = 0)) = !decide (place % 2 = 0) := by
        by_cases heven : place % 2 = 0
        · rw [decide_eq_true heven, decide_eq_false (by omega)]
          rfl
        · rw [decide_eq_false heven, decide_eq_true (by omega)]
          rfl
      rw [hparity] at hnext
      exact hnext

/-- A drawing of whole symbols: alternating, closed, and counted. -/
structure Drawn (symbols : List ℕ) (encoded : Encoded) : Prop where
  widths : encoded.widths = code128.body symbols
  alternates : Alternates true encoded.bars
  even : encoded.bars.length % 2 = 0
  summed : encoded.totalModules = encoded.widths.sum
  total : encoded.totalModules = 11 * symbols.length

theorem pattern_sum {pattern : List ℕ} (hpattern : pattern ∈ patterns) : pattern.sum = 11 := by
  have hall : ∀ pattern ∈ patterns, pattern.sum = 11 := by decide
  exact hall pattern hpattern

variable {symbols : List ℕ} {encoded : Encoded} {text : Text}

theorem Drawn.push (hdrawn : Drawn symbols encoded) {symbol : ℕ}
    (hsymbol : symbol < code128.words.length) :
    Drawn (symbols ++ [symbol]) (pushPattern encoded (code128.word symbol)) := by
  obtain ⟨hwidths, hbars, htotal⟩ := pushModules_eq (code128.word symbol) 0 encoded
  have hlength : (barsFrom 0 (code128.word symbol)).length = 6 := by
    rw [barsFrom, List.length_map, List.length_zipIdx, BlockCode.word_length hsymbol]
    rfl
  constructor
  · rw [pushPattern, hwidths, hdrawn.widths, BlockCode.body, BlockCode.body,
      List.flatMap_append, List.flatMap_singleton]
  · rw [pushPattern, hbars, alternates_append]
    refine ⟨hdrawn.alternates, ?_⟩
    rw [if_pos hdrawn.even]
    exact alternates_barsFrom _ 0
  · rw [pushPattern, hbars, List.length_append, hlength]
    have heven := hdrawn.even
    omega
  · rw [pushPattern, htotal, hwidths, hdrawn.summed, List.sum_append]
  · rw [pushPattern, htotal, hdrawn.total, pattern_sum (BlockCode.word_mem hsymbol),
      List.length_append, List.length_singleton]
    omega

theorem pushValues_drawn {values : List ℕ} (htable : code128.InTable values)
    (hdrawn : Drawn symbols encoded) :
    ∃ drawn, pushValues values encoded = some drawn ∧ Drawn (symbols ++ values) drawn := by
  induction values generalizing symbols encoded with
  | nil => exact ⟨encoded, rfl, by rwa [List.append_nil]⟩
  | cons value rest ih =>
      have hvalue := htable value List.mem_cons_self
      have hrest : code128.InTable rest := fun other hother =>
        htable other (List.mem_cons_of_mem _ hother)
      obtain ⟨drawn, hpushed, hwhole⟩ := ih hrest (hdrawn.push hvalue)
      have hpattern : patterns[value]? = some (code128.word value) := by
        change code128.words[value]? = _
        rw [List.getElem?_eq_getElem hvalue, BlockCode.word, List.getD_eq_getElem _ _ hvalue]
      refine ⟨drawn, ?_, ?_⟩
      · rw [pushValues, hpattern]
        exact hpushed
      · rw [List.append_assoc] at hwhole
        exact hwhole

/-! ## Every text -/

/-- The symbols of a text without its checksum and its start. -/
def symbolsOf (text : Text) : List ℕ :=
  (charCodes text).map fun code => (printed code).toNat - 32

theorem checksumOf_lt (values : List ℕ) : checksumOf values < 103 :=
  Nat.mod_lt _ (by decide)

theorem symbols_inTable (text : Text) (checksum : ℕ) (hchecksum : checksum < 103) :
    code128.InTable (startB :: symbolsOf text ++ [checksum]) := by
  have hwords : code128.words.length = 106 := rfl
  intro symbol hsymbol
  rw [hwords]
  cases List.mem_append.mp hsymbol with
  | inl hearlier =>
      cases List.mem_cons.mp hearlier with
      | inl hstart =>
          rw [hstart]
          decide
      | inr hchar =>
          rw [symbolsOf, List.mem_map] at hchar
          obtain ⟨code, -, rfl⟩ := hchar
          have hbounds := printed_bounds code
          omega
  | inr hlast =>
      rw [List.mem_singleton.mp hlast]
      omega

/-- Printing keeps a printable text as it is. -/
theorem charCodes_printable (hprintable : Printable text) : charCodes text = text := by
  induction text using charCodes.induct with
  | case1 | case2 => rfl
  | case3 high low rest hpair ih =>
      have hhigh := (hprintable high List.mem_cons_self).2
      have hsurrogate : isHighSurrogate high = true := hpair.1
      simp only [isHighSurrogate, decide_eq_true_eq] at hsurrogate
      have hle := UInt16.le_iff_toNat_le.mp (UInt16.le_trans hsurrogate.1 hhigh)
      exact absurd hle (by decide)
  | case4 high low rest hpair ih =>
      rw [charCodes, if_neg hpair, ih fun unit hunit =>
        hprintable unit (List.mem_cons_of_mem _ hunit)]

theorem symbolsOf_inj {left right : Text} (hleft : Printable left) (hright : Printable right)
    (hsame : symbolsOf left = symbolsOf right) : left = right := by
  have hprinted : ∀ text : Text, Printable text →
      (symbolsOf text).map (fun symbol => UInt16.ofNat (symbol + 32)) = text := by
    intro text htext
    rw [symbolsOf, charCodes_printable htext, List.map_map]
    conv_rhs => rw [← List.map_id text]
    apply List.map_congr_left
    intro unit hunit
    have hkept : printed unit = unit := if_pos (htext unit hunit)
    have hbounds := printed_bounds unit
    rw [hkept] at hbounds
    rw [Function.comp_apply, hkept, Nat.sub_add_cancel hbounds.1, UInt16.ofNat_toNat, id_eq]
  rw [← hprinted left hleft, ← hprinted right hright, hsame]

/-- Every non-empty text is drawn, and the drawing is readable. -/
theorem exists_readable (hne : text ≠ []) :
    ∃ encoded checksum, encodeCode128B text = some encoded ∧
      Readable text encoded checksum := by
  have hvalues : (charCodes text).map symbolValue = symbolsOf text :=
    List.map_congr_left fun code _ => symbolValue_eq code
  have htable := symbols_inTable text _ (checksumOf_lt (startB :: symbolsOf text))
  have hblank : Drawn [] ⟨[], 0⟩ := ⟨rfl, trivial, rfl, rfl, rfl⟩
  obtain ⟨drawn, hpushed, hdrawn⟩ := pushValues_drawn htable hblank
  rw [List.nil_append] at hdrawn
  obtain ⟨hwidths, hbars, htotal⟩ := pushModules_eq stopPattern 0 drawn
  have hencoded : (pushPattern drawn stopPattern).widths =
      code128.encode (startB :: symbolsOf text ++
        [checksumOf (startB :: symbolsOf text)]) := by
    rw [pushPattern, hwidths, hdrawn.widths]
    rfl
  refine ⟨pushPattern drawn stopPattern, checksumOf (startB :: symbolsOf text), ?_, ?_⟩
  · rw [encodeCode128B, if_neg hne]
    simp only [hvalues]
    rw [hpushed]
    rfl
  · constructor
    · change Alternates true (pushPattern drawn stopPattern).bars
      rw [pushPattern, hbars, alternates_append, if_pos hdrawn.even]
      exact ⟨hdrawn.alternates, alternates_barsFrom _ 0⟩
    · rw [hencoded]
      exact BlockCode.decode_encode htable
    · intro symbols hsymbols hsame
      rw [hencoded] at hsame
      exact (BlockCode.encode_inj hsymbols htable).mp hsame
    · exact checksumOf_lt _
    · exact checksumOf_eq _
    · rw [pushPattern, htotal, hwidths, hdrawn.summed, List.sum_append]
    · rw [pushPattern, htotal, hdrawn.total]
      simp [symbolsOf, stopPattern]

theorem encodeCode128B_nil : encodeCode128B [] = some ⟨[], 0⟩ := rfl

/-- Drawings of printable texts with the same bars and spaces are of the same text. -/
theorem Readable.text_eq {other : Text} {drawn : Encoded} {checksum : ℕ}
    (hreadable : Readable text encoded checksum) (hprintable : Printable text)
    (hother : Printable other) (hdrawn : encodeCode128B other = some drawn)
    (hsame : drawn.segments = encoded.segments) : other = text := by
  have hread := hreadable.read
  rw [Encoded.widths, ← hsame] at hread
  by_cases hempty : other = []
  · rw [hempty, encodeCode128B_nil] at hdrawn
    rw [← Option.some.inj hdrawn] at hread
    cases hread
  · obtain ⟨encoded', checksum', hencoded, hreadable'⟩ := exists_readable hempty
    rw [hdrawn] at hencoded
    rw [← Option.some.inj hencoded] at hreadable'
    have hboth := hreadable'.read.symm.trans hread
    have hsymbols : startB :: symbolsOf other ++ [checksum'] =
        startB :: symbolsOf text ++ [checksum] := Option.some.inj hboth
    have hfront := (List.append_inj' hsymbols rfl).1
    exact symbolsOf_inj hother hprintable (List.cons.inj hfront).2

/-- Every non-empty text is drawn, the drawing reads back as the text, and no other
printable text is drawn alike. -/
theorem encodeCode128B_decodable {text : Text} (hne : text ≠ []) :
    ∃ encoded checksum, encodeCode128B text = some encoded ∧ Readable text encoded checksum ∧
      (Printable text → ∀ other drawn, Printable other →
        encodeCode128B other = some drawn → drawn.segments = encoded.segments →
          other = text) := by
  obtain ⟨encoded, checksum, hencoded, hreadable⟩ := exists_readable hne
  exact ⟨encoded, checksum, hencoded, hreadable,
    fun hprintable other drawn hother hdrawn hsame =>
      hreadable.text_eq hprintable hother hdrawn hsame⟩

/-- The order number `A-1`. -/
theorem encodeCode128B_decodable_orderNumber :
    ∃ encoded checksum, encodeCode128B [65, 45, 49] = some encoded ∧
      Readable [65, 45, 49] encoded checksum ∧
      (Printable [65, 45, 49] → ∀ other drawn, Printable other →
        encodeCode128B other = some drawn → drawn.segments = encoded.segments →
          other = [65, 45, 49]) :=
  encodeCode128B_decodable (List.cons_ne_nil _ _)

end SentryWms.Admin
