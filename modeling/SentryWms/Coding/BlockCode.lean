import Mathlib.Data.List.GetD
import Mathlib.Data.List.Nodup

/-!
# Block codes with a terminator

A table of different words of one length, and a terminator that does not begin with any
of them.  A text written word by word and closed by the terminator can be read back one
block at a time, so no two texts are written alike.
-/

namespace Coding

/-- The words by their number, and what closes a text. -/
structure BlockCode (Letter : Type*) where
  words : List (List Letter)
  width : ℕ
  terminator : List Letter
  width_pos : 0 < width
  words_length : ∀ word ∈ words, word.length = width
  words_nodup : words.Nodup
  terminator_free : terminator.take width ∉ words

variable {symbol : ℕ} {symbols : List ℕ}

namespace BlockCode

variable {Letter : Type*} (code : BlockCode Letter)

/-- The word of a symbol. -/
def word (symbol : ℕ) : List Letter := code.words.getD symbol []

/-- The words of the symbols one after another. -/
def body (symbols : List ℕ) : List Letter := symbols.flatMap code.word

def encode (symbols : List ℕ) : List Letter := code.body symbols ++ code.terminator

/-- The symbols have words. -/
def InTable (symbols : List ℕ) : Prop := ∀ symbol ∈ symbols, symbol < code.words.length

section Decode

variable [DecidableEq Letter]

/-- Reading blocks until the terminator is all that is left. -/
def decodeWith : ℕ → List Letter → Option (List ℕ)
  | 0, letters => if letters = code.terminator then some [] else none
  | fuel + 1, letters =>
      if letters = code.terminator then some []
      else
        (code.words.idxOf? (letters.take code.width)).bind fun symbol =>
          (decodeWith fuel (letters.drop code.width)).map fun rest => symbol :: rest

def decode (letters : List Letter) : Option (List ℕ) := code.decodeWith letters.length letters

end Decode

variable {code}

theorem word_mem (hsymbol : symbol < code.words.length) : code.word symbol ∈ code.words := by
  rw [word, List.getD_eq_getElem _ _ hsymbol]
  exact List.getElem_mem hsymbol

theorem word_length (hsymbol : symbol < code.words.length) :
    (code.word symbol).length = code.width :=
  code.words_length _ (word_mem hsymbol)

theorem body_length (htable : code.InTable symbols) :
    (code.body symbols).length = code.width * symbols.length := by
  induction symbols with
  | nil => rfl
  | cons symbol rest ih =>
      have hrest := ih fun other hother => htable other (List.mem_cons_of_mem _ hother)
      rw [body, List.flatMap_cons, List.length_append, ← body, hrest,
        word_length (htable symbol List.mem_cons_self), List.length_cons, Nat.mul_succ,
        Nat.add_comm]

variable [DecidableEq Letter]

theorem idxOf?_word (hsymbol : symbol < code.words.length) :
    code.words.idxOf? (code.word symbol) = some symbol := by
  rw [word, List.getD_eq_getElem _ _ hsymbol]
  exact List.idxOf?_eq_some_iff.mpr ⟨hsymbol, rfl, fun earlier hearlier hsame =>
    absurd ((code.words_nodup.getElem_inj_iff).mp hsame) (Nat.ne_of_lt hearlier)⟩

theorem decodeWith_encode (htable : code.InTable symbols) {fuel : ℕ}
    (hfuel : symbols.length ≤ fuel) :
    code.decodeWith fuel (code.encode symbols) = some symbols := by
  induction symbols generalizing fuel with
  | nil => cases fuel <;> exact if_pos rfl
  | cons symbol rest ih =>
      have hsymbol := htable symbol List.mem_cons_self
      have hrest : code.InTable rest := fun other hother =>
        htable other (List.mem_cons_of_mem _ hother)
      obtain ⟨less, rfl⟩ : ∃ less, fuel = less + 1 :=
        Nat.exists_eq_add_of_le' (Nat.le_trans (Nat.succ_pos _) hfuel)
      have hsplit : code.encode (symbol :: rest) = code.word symbol ++ code.encode rest := by
        rw [encode, body, List.flatMap_cons, List.append_assoc]
        rfl
      have htake : (code.encode (symbol :: rest)).take code.width = code.word symbol := by
        rw [hsplit, ← word_length hsymbol, List.take_left]
      have hdrop : (code.encode (symbol :: rest)).drop code.width = code.encode rest := by
        rw [hsplit, ← word_length hsymbol, List.drop_left]
      -- what starts with a word is not the terminator
      have hopen : code.encode (symbol :: rest) ≠ code.terminator := by
        intro hsame
        apply code.terminator_free
        rw [← hsame, htake]
        exact word_mem hsymbol
      rw [decodeWith, if_neg hopen, htake, hdrop, idxOf?_word hsymbol, Option.bind_some,
        ih hrest (Nat.le_of_succ_le_succ hfuel), Option.map_some]

theorem decode_encode (htable : code.InTable symbols) :
    code.decode (code.encode symbols) = some symbols := by
  apply decodeWith_encode htable
  have hblocks : symbols.length ≤ code.width * symbols.length :=
    Nat.le_mul_of_pos_left _ code.width_pos
  rw [encode, List.length_append, body_length htable]
  omega

/-- No two texts are written alike. -/
theorem encode_inj {left right : List ℕ} (hleft : code.InTable left)
    (hright : code.InTable right) :
    code.encode left = code.encode right ↔ left = right := by
  constructor
  · intro hsame
    have hread := decode_encode hleft
    rw [hsame, decode_encode hright] at hread
    exact (Option.some.inj hread).symm
  · exact congrArg code.encode

end BlockCode

end Coding
