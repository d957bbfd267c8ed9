import Mathlib.Data.List.Basic
import Replica.Json.Printer
import Replica.Proofs.Decimals
import Replica.Proofs.Surrogates
/-!
# What documents look like

The text of a JSON value is described by a grammar, with every character written out: what stands
for a character inside a text, and where the items of a list and the fields of an object stand.

* **Texts.**  `Json.Escapes` says what stands for a code point, `Json.IsUnit` what the escape of a
  16-bit unit is, and `Json.Quotes` puts the escapes between quotation marks.
* **Values.**  `Json.Shows` is the grammar of values: each item stands on a line of its own, two
  blanks further in than the brackets around it.  `Json.shows_pretty` is about the printer.
-/

namespace Replica.Json

open Text (CodePoint)

/-! ## Texts -/

/-- The digits of hexadecimal numbers, by their values. -/
def lowerHex : List Char :=
  ['0', '1', '2', '3', '4', '5', '6', '7', '8', '9', 'a', 'b', 'c', 'd', 'e', 'f']

/-- The escape of the 16-bit unit `n`: a backslash, the letter and four digits, the highest
first. -/
def IsUnit (n : Nat) (cs : List Char) : Prop :=
  n < 0x10000 ∧ ∃ a b c d, cs = ['\\', 'u', a, b, c, d] ∧ lowerHex[n / 0x1000]? = some a ∧
    lowerHex[n / 0x100 % 0x10]? = some b ∧ lowerHex[n / 0x10 % 0x10]? = some c ∧
    lowerHex[n % 0x10]? = some d

/-- The characters that a letter after a backslash stands for, or the character itself. -/
def shortEscapes : List (Char × Char) :=
  [('"', '"'), ('\\', '\\'), ('\n', 'n'), ('\r', 'r'), ('\t', 't'), ('\x08', 'b'), ('\x0c', 'f')]

/-- What stands for a code point inside a text. -/
inductive Escapes : Nat → List Char → Prop where
  /-- A character with a short escape. -/
  | short {c letter : Char} (listed : (c, letter) ∈ shortEscapes) :
    Escapes c.toNat ['\\', letter]
  /-- A visible ASCII character, or a blank. -/
  | plain {c : Char} (visible : 0x20 ≤ c.toNat ∧ c.toNat ≤ 0x7E)
    (unlisted : ∀ letter, (c, letter) ∉ shortEscapes) : Escapes c.toNat [c]
  /-- Another character, or a surrogate, that one unit stands for. -/
  | unit {n : Nat} {cs : List Char} (hidden : n < 0x20 ∨ 0x7E < n)
    (unlisted : ∀ c letter, c.toNat = n → (c, letter) ∉ shortEscapes) (unit : IsUnit n cs) :
    Escapes n cs
  /-- A character beyond these: a high surrogate and a low one stand for it. -/
  | pair {n : Nat} {high low : Nat} {cs ds : List Char}
    (isHigh : 0xD800 ≤ high ∧ high ≤ 0xDBFF) (isLow : 0xDC00 ≤ low ∧ low ≤ 0xDFFF)
    (value : n = 0x10000 + (high - 0xD800) * 0x400 + (low - 0xDC00))
    (first : IsUnit high cs) (second : IsUnit low ds) : Escapes n (cs ++ ds)

/-- What stands for code points one after the other. -/
inductive EscapeAll : List CodePoint → List Char → Prop where
  | nil : EscapeAll [] []
  | cons {n : CodePoint} {ns : List CodePoint} {es fs : List Char} (head : Escapes n es)
    (tail : EscapeAll ns fs) : EscapeAll (n :: ns) (es ++ fs)

/-- A text between quotation marks. -/
def Quotes (ns : List CodePoint) (text : String) : Prop :=
  ∃ cs, EscapeAll ns cs ∧ text = "\"" ++ String.ofList cs ++ "\""

lemma lowerHex_eq : ∀ d < 0x10, lowerHex[d]? = some (Text.hexDigit d) := by decide

lemma isUnit_unitEscape {n : Nat} (hn : n < 0x10000) : IsUnit n (unitEscape n) := by
  have hdigit : ∀ m, lowerHex[m % 0x10]? = some (Text.hexDigit (m % 0x10)) := fun m =>
    lowerHex_eq _ (Nat.mod_lt m (by decide))
  have hhigh : lowerHex[n / 0x1000]? = some (Text.hexDigit (n / 0x1000)) :=
    lowerHex_eq _ (by omega)
  refine ⟨hn, _, _, _, _, ?_, hhigh, hdigit (n / 0x100), hdigit (n / 0x10), hdigit n⟩
  have hdigits : unitEscape n = ['\\', 'u', Text.hexDigit (n / 16 / 16 / 16 % 16),
      Text.hexDigit (n / 16 / 16 % 16), Text.hexDigit (n / 16 % 16), Text.hexDigit (n % 16)] := rfl
  have hthree : n / 16 / 16 / 16 % 16 = n / 0x1000 := by omega
  have htwo : n / 16 / 16 = n / 0x100 := by omega
  rw [hdigits, hthree, htwo]

lemma escapes_escapeChar (c : Char) : Escapes c.toNat (escapeChar c) := by
  by_cases hlisted : ∃ letter, (c, letter) ∈ shortEscapes
  · obtain ⟨letter, hletter⟩ := hlisted
    have hescape : escapeChar c = ['\\', letter] := by
      simp only [shortEscapes, List.mem_cons, Prod.mk.injEq, List.not_mem_nil, or_false] at hletter
      rcases hletter with ⟨rfl, rfl⟩ | ⟨rfl, rfl⟩ | ⟨rfl, rfl⟩ | ⟨rfl, rfl⟩ | ⟨rfl, rfl⟩ |
        ⟨rfl, rfl⟩ | ⟨rfl, rfl⟩ <;> rfl
    rw [hescape]
    exact .short hletter
  · rw [not_exists] at hlisted
    have hmax : c.toNat < 0x110000 := by
      rcases c.valid with h | h
      · exact Nat.lt_trans h (by decide)
      · exact h.2
    have hother : escapeChar c =
        if 0x20 ≤ c.toNat ∧ c.toNat < 0x7F then [c]
        else if c.toNat < 0x10000 then unitEscape c.toNat
        else unitEscape (0xD800 + (c.toNat - 0x10000) / 0x400) ++
          unitEscape (0xDC00 + (c.toNat - 0x10000) % 0x400) := by
      simp only [shortEscapes, List.mem_cons, Prod.mk.injEq, List.not_mem_nil, or_false, not_or,
        not_and] at hlisted
      rw [escapeChar, if_neg fun h => (hlisted '"').1 h rfl,
        if_neg fun h => (hlisted '\\').2.1 h rfl, if_neg fun h => (hlisted 'n').2.2.1 h rfl,
        if_neg fun h => (hlisted 'r').2.2.2.1 h rfl, if_neg fun h => (hlisted 't').2.2.2.2.1 h rfl,
        if_neg fun h => (hlisted 'b').2.2.2.2.2.1 h rfl,
        if_neg fun h => (hlisted 'f').2.2.2.2.2.2 h rfl]
    rw [hother]
    split_ifs with hvisible hone
    · exact .plain ⟨hvisible.1, Nat.le_of_lt_succ hvisible.2⟩ hlisted
    · refine .unit (by omega) (fun d letter hd => ?_) (isUnit_unitEscape hone)
      rw [Char.toNat_inj.mp hd]
      exact hlisted letter
    · exact .pair ⟨by omega, by omega⟩ ⟨by omega, by omega⟩ (by omega)
        (isUnit_unitEscape (by omega)) (isUnit_unitEscape (by omega))

lemma escapes_escapePoint {n : Nat} (hn : n ≤ CodePoint.max) : Escapes n (escapePoint n) := by
  rw [escapePoint]
  rcases hc : CodePoint.char? n with _ | c
  · -- a surrogate is too great for a short escape
    obtain ⟨hlow, hhigh⟩ := CodePoint.surrogate_of_char?_eq_none hn hc
    refine .unit (by omega) (fun d letter hd hlisted => ?_) (isUnit_unitEscape (by omega))
    have hshort : ∀ p ∈ shortEscapes, p.1.toNat < 0x80 := by decide
    have hsmall : d.toNat < 0x80 := hshort _ hlisted
    omega
  · rw [← CodePoint.toNat_of_char?_eq_some hc]
    exact escapes_escapeChar c

lemma quotes_pointsText {ns : List CodePoint} (hns : ∀ n ∈ ns, n ≤ CodePoint.max) :
    Quotes ns (pointsText ns) := by
  have hall : EscapeAll ns (ns.flatMap escapePoint) := by
    induction ns with
    | nil => exact .nil
    | cons n ns ih =>
      obtain ⟨hn, hrest⟩ := List.forall_mem_cons.mp hns
      exact .cons (escapes_escapePoint hn) (ih hrest)
  refine ⟨_, hall, String.toList_inj.mp ?_⟩
  simp [pointsText]

lemma quotes_stringText (s : String) : Quotes (CodePoint.ofChars s.toList) (stringText s) :=
  quotes_pointsText fun _ => CodePoint.le_max_of_mem_ofChars

/-! ## Values -/

/-- What stands for a number: the digits of an integer, decimals that are rounded to a float, and a
name for what is no finite number. -/
inductive NumberShows : Number → String → Prop where
  | int (n : Int) : NumberShows (.int n) (toString n)
  | notANumber {x : Float} (value : Binary64.ofFloat x = .notANumber) :
    NumberShows (.float x) "NaN"
  | infinity {x : Float} (value : Binary64.ofFloat x = .infinite false) :
    NumberShows (.float x) "Infinity"
  | negativeInfinity {x : Float} (value : Binary64.ofFloat x = .infinite true) :
    NumberShows (.float x) "-Infinity"
  | finite {x : Float} {negative : Bool} {magnitude : BinaryFraction} {cs : List Char} {v : ℚ}
    (value : Binary64.ofFloat x = .finite negative magnitude) (writes : Numeral.WritesFloat cs v)
    (nearest : magnitude.IsNearest v) :
    NumberShows (.float x) ((if negative then "-" else "") ++ String.ofList cs)

/-- A new line inside of `depth` pairs of brackets. -/
def lineStart (depth : Nat) : String := "\n" ++ String.ofList (List.replicate (2 * depth) ' ')

mutual

/-- The text of a value inside of `depth` pairs of brackets. -/
inductive Shows : Nat → Json → String → Prop where
  | null {depth : Nat} : Shows depth .null "null"
  | true {depth : Nat} : Shows depth (.bool true) "true"
  | false {depth : Nat} : Shows depth (.bool false) "false"
  | number {depth : Nat} {n : Number} {text : String} (shows : NumberShows n text) :
    Shows depth (.number n) text
  | string {depth : Nat} {s text : String} (quotes : Quotes (CodePoint.ofChars s.toList) text) :
    Shows depth (.string s) text
  | unwritable {depth : Nat} {t : Text.Unwritable} {text : String} (quotes : Quotes t.points text) :
    Shows depth (.unwritable t) text
  | noItems {depth : Nat} : Shows depth (.array []) "[]"
  | items {depth : Nat} {vs : List Json} {text : String} (shows : ItemsShow (depth + 1) vs text) :
    Shows depth (.array vs) ("[" ++ text ++ lineStart depth ++ "]")
  | noFields {depth : Nat} : Shows depth (.object []) "\x7b\x7d"
  | fields {depth : Nat} {fs : List (String × Json)} {text : String}
    (shows : FieldsShow (depth + 1) fs text) :
    Shows depth (.object fs) ("\x7b" ++ text ++ lineStart depth ++ "\x7d")

/-- The text of items, at least one of them, each on a line of its own. -/
inductive ItemsShow : Nat → List Json → String → Prop where
  | last {depth : Nat} {v : Json} {text : String} (shows : Shows depth v text) :
    ItemsShow depth [v] (lineStart depth ++ text)
  | more {depth : Nat} {v : Json} {rest : List Json} {text texts : String}
    (shows : Shows depth v text) (others : ItemsShow depth rest texts) :
    ItemsShow depth (v :: rest) (lineStart depth ++ text ++ "," ++ texts)

/-- The text of fields, at least one of them, each on a line of its own. -/
inductive FieldsShow : Nat → List (String × Json) → String → Prop where
  | last {depth : Nat} {k : String} {v : Json} {name text : String}
    (quotes : Quotes (CodePoint.ofChars k.toList) name)
    (shows : Shows depth v text) :
    FieldsShow depth [(k, v)] (lineStart depth ++ name ++ ": " ++ text)
  | more {depth : Nat} {k : String} {v : Json} {rest : List (String × Json)}
    {name text texts : String} (quotes : Quotes (CodePoint.ofChars k.toList) name)
    (shows : Shows depth v text)
    (others : FieldsShow depth rest texts) :
    FieldsShow depth ((k, v) :: rest) (lineStart depth ++ name ++ ": " ++ text ++ "," ++ texts)

end

lemma numberShows_numberText (n : Number) : NumberShows n (numberText n) := by
  cases n with
  | int n => exact .int n
  | float x =>
    rw [numberText]
    split
    next h => exact .notANumber h
    next negative h =>
      cases negative
      · exact .infinity h
      · exact .negativeInfinity h
    next h =>
      obtain ⟨cs, v, writes, nearest, htext⟩ := exists_floatText h
      rw [htext]
      exact .finite h writes nearest

/-- The layout of documents. -/
abbrev prettyLayout : Layout := ⟨",", ": ", true⟩

mutual

lemma shows_render (depth : Nat) : ∀ v : Json, Shows depth v (render prettyLayout depth v)
  | .null => by
    rw [render]
    exact .null
  | .bool b => by
    rw [render]
    cases b
    · exact .false
    · exact .true
  | .number n => by
    rw [render]
    exact .number (numberShows_numberText n)
  | .string s => by
    rw [render]
    exact .string (quotes_stringText s)
  | .unwritable t => by
    rw [render]
    exact .unwritable (quotes_pointsText t.inRange)
  | .array vs => by
    by_cases hvs : vs = []
    · subst hvs
      rw [render]
      exact .noItems
    obtain ⟨text, hitems, hrender⟩ := itemsShow_renderItems (depth + 1) "[" vs hvs
    have htext : render prettyLayout depth (.array vs) = "[" ++ text ++ lineStart depth ++ "]" := by
      rw [← hrender, render, if_neg (by simpa using hvs)]
      rfl
    rw [htext]
    exact .items hitems
  | .object fs => by
    by_cases hfs : fs = []
    · subst hfs
      rw [render]
      exact .noFields
    obtain ⟨text, hfields, hrender⟩ := fieldsShow_renderFields (depth + 1) "\x7b" fs hfs
    have htext : render prettyLayout depth (.object fs) =
        "\x7b" ++ text ++ lineStart depth ++ "\x7d" := by
      rw [← hrender, render, if_neg (by simpa using hfs)]
      rfl
    rw [htext]
    exact .fields hfields

/-- What is written of items after what stands in front of them. -/
lemma itemsShow_renderItems (depth : Nat) (front : String) : ∀ vs : List Json, vs ≠ [] →
    ∃ text, ItemsShow depth vs text ∧
      renderItems prettyLayout depth (front ++ lineStart depth) vs = front ++ text
  | [], h => absurd rfl h
  | [v], _ => by
    refine ⟨_, .last (shows_render depth v), ?_⟩
    rw [renderItems, String.append_assoc]
  | v :: w :: rest, _ => by
    obtain ⟨texts, hitems, hrender⟩ := itemsShow_renderItems depth
      (front ++ lineStart depth ++ render prettyLayout depth v ++ ",") (w :: rest)
      (List.cons_ne_nil w rest)
    refine ⟨_, .more (shows_render depth v) hitems, ?_⟩
    rw [renderItems]
    exact hrender.trans (by simp only [String.append_assoc])

/-- What is written of fields after what stands in front of them. -/
lemma fieldsShow_renderFields (depth : Nat) (front : String) :
    ∀ fs : List (String × Json), fs ≠ [] → ∃ text, FieldsShow depth fs text ∧
      renderFields prettyLayout depth (front ++ lineStart depth) fs = front ++ text
  | [], h => absurd rfl h
  | [(k, v)], _ => by
    refine ⟨_, .last (quotes_stringText k) (shows_render depth v), ?_⟩
    rw [renderFields]
    simp only [String.append_assoc]
  | (k, v) :: g :: rest, _ => by
    obtain ⟨texts, hfields, hrender⟩ := fieldsShow_renderFields depth
      (front ++ lineStart depth ++ stringText k ++ ": " ++ render prettyLayout depth v ++ ",")
      (g :: rest) (List.cons_ne_nil g rest)
    refine ⟨_, .more (quotes_stringText k) (shows_render depth v) hfields, ?_⟩
    rw [renderFields]
    exact hrender.trans (by simp only [String.append_assoc])

end

/-- **Documents look as the grammar says.** -/
theorem shows_pretty (v : Json) : Shows 0 v v.pretty := shows_render 0 v

end Replica.Json
