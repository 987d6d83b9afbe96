import ComponentFormat.Proofs.Layering
import ComponentFormat.Proofs.BareLines
import ComponentFormat.Proofs.LowerCase

/-! # What becomes of the entries of a layer

Each option has the value of the last entry that is for it: the key, written out and in snake case, is the option's
name, and the option accepts the value. Other entries leave no trace in the options, with one exception. Every key is
written out before it is looked at, and a number too long for that leaves no options at all (`Options.build?_settles`).
-/
namespace ComponentFormat

namespace Text

/-- What a piece between two commas comes to: nothing, or one item without the blanks around it. -/
inductive Item : Text → List Text → Prop
  | none {p : Text} (hp : p.Blank) : Item p []
  | one {p item q : Text} (hp : p.Blank) (hitem : item.Tight) (hq : q.Blank) : Item (p ++ (item ++ q)) [item]

inductive Items : Text → List Text → Prop
  | last {piece : Text} {items : List Text} (hcomma : ',' ∉ piece) (h : Item piece items) : Items piece items
  | more {piece rest : Text} {items others : List Text} (hcomma : ',' ∉ piece) (h : Item piece items)
      (hrest : Items rest others) : Items (piece ++ ',' :: rest) (items ++ others)

def items (t : Text) : List Text :=
  ((splitAt (· == ',') t).map strip).filter (!·.isEmpty)

theorem Tight.ne_nil {t : Text} (h : t.Tight) : t ≠ [] := by
  obtain ⟨c, hc, -⟩ := h.first
  rintro rfl
  cases hc

theorem item_iff {piece : Text} {is : List Text} : Item piece is ↔ [strip piece].filter (!·.isEmpty) = is := by
  constructor
  · rintro (hp | ⟨hp, hitem, hq⟩)
    · rw [strip_blank hp]
      rfl
    · rw [strip_blank_append hp, strip_append_blank hq, strip_tight hitem]
      simp [hitem.ne_nil]
  · rintro rfl
    rcases blank_or_tight piece with hp | ⟨p, q, hp, hq, hpiece, hitem⟩
    · rw [strip_blank hp]
      exact .none hp
    · have hkept : [strip piece].filter (!·.isEmpty) = [strip piece] := by simp [hitem.ne_nil]
      rw [hkept]
      generalize strip piece = item at hpiece hitem
      subst hpiece
      exact .one hp hitem hq

theorem items_last {piece : Text} (h : ',' ∉ piece) : items piece = [strip piece].filter (!·.isEmpty) := by
  rw [items, splitAt_of_forall, List.map_singleton]
  intro c hc
  exact beq_eq_false_iff_ne.2 fun he => h (he ▸ hc)

theorem items_more {piece : Text} (h : ',' ∉ piece) (rest : Text) :
    items (piece ++ ',' :: rest) = [strip piece].filter (!·.isEmpty) ++ items rest := by
  rw [← items_last h, items, splitAt_append (by rfl), List.map_append, List.filter_append]
  rfl

theorem items_self (t : Text) : Items t (items t) := by
  induction hn : t.length using Nat.strongRecOn generalizing t with
  | _ n ih =>
    by_cases hcomma : ',' ∈ t
    · obtain ⟨piece, rest, rfl, hpiece⟩ := List.eq_append_cons_of_mem hcomma
      rw [items_more hpiece]
      refine .more hpiece (item_iff.2 rfl) (ih rest.length ?_ rest rfl)
      rw [← hn, List.length_append, List.length_cons]
      omega
    · rw [items_last hcomma]
      exact .last hcomma (item_iff.2 rfl)

theorem items_iff {t : Text} {is : List Text} : Items t is ↔ items t = is := by
  constructor
  · intro h
    induction h with
    | last hcomma h => rw [items_last hcomma, item_iff.1 h]
    | more hcomma h _ ih => rw [items_more hcomma, item_iff.1 h, ih]
  · rintro rfl
    exact items_self t

end Text

namespace Value

theorem asWord?_eq_some_iff {v : Value} {s : String} : v.asWord? = some s ↔ v = .ofString s := by
  unfold asWord?
  split
  · simp [ofString]
  · next h => exact iff_of_false nofun fun hv => h s hv

theorem asCount?_eq_some_iff {v : Value} {n : Nat} : v.asCount? = some n ↔ v = .ofNat n := by
  unfold asCount?
  split
  · constructor <;> rintro ⟨⟩ <;> rfl
  · next h => exact iff_of_false nofun fun hv => h n hv

theorem asFlag?_eq_some_iff {v : Value} {b : Bool} : v.asFlag? = some b ↔ v = .ofBool b := by
  unfold asFlag?
  split
  · simp [ofBool]
  · next h => exact iff_of_false nofun fun hv => h b hv

theorem mapM_asWord?_eq_some_iff {vs : List Value} {ts : List String} :
    vs.mapM asWord? = some ts ↔ vs = ts.map .ofString := by
  induction vs generalizing ts with
  | nil => cases ts <;> simp
  | cons v vs ih =>
    simp only [List.mapM_cons, Option.bind_eq_bind, Option.bind_eq_some_iff, Option.pure_def, Option.some.injEq,
      asWord?_eq_some_iff, ih]
    cases ts <;> simp

theorem asTags?_eq_some_iff {v : Value} {ts : List String} : v.asTags? = some ts ↔
    v = .list (ts.map .ofString) ∨ ∃ s items, v = .ofString s ∧ Text.Items s.toList items ∧
      ts = items.map String.ofList := by
  unfold asTags?
  split
  · next s =>
    have hitems (is : List Text) : Text.Items s.toList is ↔ is = Text.items s.toList :=
      Text.items_iff.trans eq_comm
    simp [ofString, hitems, Text.items, eq_comm]
  · next vs => simp [mapM_asWord?_eq_some_iff, ofString]
  · next hscalar hlist =>
    refine iff_of_false nofun ?_
    rintro (rfl | ⟨s, items, rfl, -⟩)
    · exact hlist _ rfl
    · exact hscalar _ rfl

end Value

inductive OptionKind where
  | word
  | count
  | flag
  | tags
  deriving DecidableEq, Repr

namespace OptionKind
open Value

/-- The value is one for options of the kind, which keep it as the other: a text, a number from zero on, a truth value;
names in a list, or in a text with commas between them. -/
inductive Accepts : OptionKind → Value → Value → Prop
  | word (s : String) : Accepts .word (.ofString s) (.ofString s)
  | count (n : Nat) : Accepts .count (.ofNat n) (.ofNat n)
  | flag (b : Bool) : Accepts .flag (.ofBool b) (.ofBool b)
  | tags (ts : List String) : Accepts .tags (.list (ts.map .ofString)) (.list (ts.map .ofString))
  | separated {s : String} {items : List Text} (h : Text.Items s.toList items) :
      Accepts .tags (.ofString s) (.list ((items.map String.ofList).map .ofString))

def hold? : OptionKind → Value → Option Value
  | .word, v => v.asWord?.map .ofString
  | .count, v => v.asCount?.map .ofNat
  | .flag, v => v.asFlag?.map .ofBool
  | .tags, v => v.asTags?.map fun ts => .list (ts.map .ofString)

theorem hold?_eq_some_iff {kind : OptionKind} {v w : Value} : kind.hold? v = some w ↔ kind.Accepts v w := by
  constructor
  · intro h
    cases kind with
    | word =>
      obtain ⟨s, hs, rfl⟩ := Option.map_eq_some_iff.1 h
      exact asWord?_eq_some_iff.1 hs ▸ .word s
    | count =>
      obtain ⟨n, hn, rfl⟩ := Option.map_eq_some_iff.1 h
      exact asCount?_eq_some_iff.1 hn ▸ .count n
    | flag =>
      obtain ⟨b, hb, rfl⟩ := Option.map_eq_some_iff.1 h
      exact asFlag?_eq_some_iff.1 hb ▸ .flag b
    | tags =>
      obtain ⟨ts, hts, rfl⟩ := Option.map_eq_some_iff.1 h
      rcases asTags?_eq_some_iff.1 hts with rfl | ⟨s, items, rfl, hitems, rfl⟩
      · exact .tags ts
      · exact .separated hitems
  · intro h
    cases h with
    | word s => rfl
    | count n => rfl
    | flag b => rfl
    | tags ts =>
      rw [hold?, asTags?_eq_some_iff.2 (.inl rfl)]
      rfl
    | separated h =>
      rw [hold?, asTags?_eq_some_iff.2 (.inr ⟨_, _, rfl, h, rfl⟩)]
      rfl

end OptionKind

def CodeOption.kind : CodeOption → OptionKind
  | word _ => .word
  | count _ => .count
  | flag _ => .flag

def MarkupOption.kind : MarkupOption → OptionKind
  | wrapAttributes => .word
  | wrapLineLength | indentSize => .count
  | unformatted => .tags
  | indentInnerHtml | endWithNewline => .flag

theorem CodeOption.hold?_eq (f : CodeOption) : f.setting.hold? = f.kind.hold? := by
  cases f <;> rfl

theorem MarkupOption.hold?_eq (f : MarkupOption) : f.setting.hold? = f.kind.hold? := by
  cases f <;> rfl

theorem CodeOption.accepts_get (f : CodeOption) (o : Options) : f.kind.Accepts (o.get f) (o.get f) := by
  cases f with
  | word f => exact .word _
  | count f => exact .count _
  | flag f => exact .flag _

theorem MarkupOption.accepts_get (f : MarkupOption) (m : MarkupOptions) : f.kind.Accepts (m.get f) (m.get f) := by
  cases f with
  | wrapAttributes => exact .word _
  | unformatted => exact .tags _
  | wrapLineLength | indentSize => exact .count _
  | indentInnerHtml | endWithNewline => exact .flag _

namespace Scalar

def dateText (year month day : Nat) : String :=
  Yaml.Tagged.padded 4 year ++ "-" ++ Yaml.Tagged.padded 2 month ++ "-" ++ Yaml.Tagged.padded 2 day

/-- The text that a key is turned into. An integer has none with more digits than are written out; a moment is printed
with a letter between day and clock and written with a blank. -/
inductive Writes : Scalar → String → Prop
  | null : Writes .null "None"
  | yes : Writes (.bool true) "True"
  | no : Writes (.bool false) "False"
  | int {n : Int} (h : n.natAbs < Number.tenTo Number.maxDigits) : Writes (.int n) (toString n)
  | float (x : Float) : Writes (.float x) (Number.textOfFloat x)
  | str (s : String) : Writes (.str s) s
  | date (year month day : Nat) : Writes (.date year month day) (dateText year month day)
  | moment (year month day : Nat) (clock : String) :
      Writes (.moment (dateText year month day ++ "T" ++ clock)) (dateText year month day ++ " " ++ clock)

/-- The words that keys without a text of their own are written as. -/
def constants : List String := ["None", "True", "False", "nan", "inf"]

def isNumeral (c : Char) : Bool :=
  isAsciiDigit c || c == '.' || c == '+' || c == '-'

theorem isNumeral_digit {n : Nat} {c : Char} (hc : c ∈ Nat.toDigits 10 n) : isNumeral c = true := by
  have hdigit : isAsciiDigit c = true := Nat.isDigit_of_mem_toDigits (by decide) (by decide) hc
  rw [isNumeral, hdigit]
  rfl

theorem exists_numeral_nat (n : Nat) : ∃ c ∈ (toString n).toList, isNumeral c = true := by
  have htext : (toString n).toList = Nat.toDigits 10 n := by simp [ToString.toString]
  obtain ⟨c, ds, hds⟩ := List.exists_cons_of_ne_nil (Nat.toDigits_ne_nil (n := n) (b := 10))
  have hc : c ∈ Nat.toDigits 10 n := by simp [hds]
  exact ⟨c, htext ▸ hc, isNumeral_digit hc⟩

theorem exists_numeral_int (n : Int) : ∃ c ∈ (toString n).toList, isNumeral c = true := by
  cases n with
  | ofNat n => exact exists_numeral_nat n
  | negSucc n =>
    refine ⟨'-', ?_, by decide⟩
    show '-' ∈ ("-" ++ toString (n + 1)).toList
    simp

theorem exists_numeral_float (x : Float) :
    Number.textOfFloat x ∈ constants ∨ ∃ c ∈ (Number.textOfFloat x).toList, isNumeral c = true := by
  have hmark (power : Int) (front back : String) :
      ∃ c ∈ (front ++ (if power < 0 then "e-" else "e+") ++ back).toList, isNumeral c = true := by
    split
    · exact ⟨'-', by simp, by decide⟩
    · exact ⟨'+', by simp, by decide⟩
  unfold Number.textOfFloat
  dsimp only
  split
  · split
    · exact .inl (by decide)
    · split
      · exact .inl (by decide)
      · exact .inr ⟨'-', by decide, by decide⟩
  · refine .inr ?_
    split
    · exact ⟨'.', by simp, by decide⟩
    · split
      · exact ⟨'.', by simp, by decide⟩
      · exact hmark _ _ _

theorem isNumeral_lower {c : Char} (h : isNumeral c = true) : c.toNat < 128 ∧ Text.lowerLetter c = c := by
  have hlt : c.toNat < 128 := by
    simp only [isNumeral, Bool.or_eq_true, isAsciiDigit_iff, beq_iff_eq] at h
    rcases h with ((h | rfl) | rfl) | rfl
    · omega
    · decide
    · decide
    · decide
  have hlower := forall_ascii (fun c => isNumeral c = true → Text.lowerLetter c = c) (by decide +kernel) hlt
  exact ⟨hlt, hlower h⟩

theorem Writes.numeral {key : Scalar} {t : String} (h : key.Writes t) :
    key = .str t ∨ t ∈ constants ∨ ∃ c ∈ t.toList, isNumeral c = true := by
  cases h with
  | null => exact .inr (.inl (by decide))
  | yes => exact .inr (.inl (by decide))
  | no => exact .inr (.inl (by decide))
  | @int n _ => exact .inr (.inr (exists_numeral_int n))
  | float x => exact .inr (exists_numeral_float x)
  | str s => exact .inl rfl
  | date year month day => exact .inr (.inr ⟨'-', by simp [dateText], by decide⟩)
  | moment year month day clock => exact .inr (.inr ⟨'-', by simp [dateText], by decide⟩)

end Scalar

theorem Key.mem_snakeCase {c : Char} {t : Text} (hc : c ∈ t) (h : Scalar.isNumeral c = true) : c ∈ snakeCase t := by
  obtain ⟨hlt, hlower⟩ := Scalar.isNumeral_lower h
  have hseparate : c ∈ separate t := by
    cases t with
    | nil => cases hc
    | cons d t =>
      rw [separate]
      rcases List.mem_cons.1 hc with rfl | hc
      · exact List.mem_cons_self
      · exact List.mem_cons_of_mem _ (List.mem_flatMap.2 ⟨c, hc, by split <;> simp⟩)
  have hsequence : c ∈ Text.lowerSequence c := by
    rw [Text.lowerSequence, if_neg (by omega), hlower]
    exact List.mem_singleton_self c
  refine Text.lowerSequence_subset_lowerFrom hseparate ?_ hsequence
  rintro rfl
  exact absurd hlt (by decide)

namespace Setting

/-- The name of the option is none that a key has that is no text. -/
def Verbal (x : Setting) : Prop :=
  (∀ c ∈ x.name, Scalar.isNumeral c = false) ∧ ∀ s ∈ Scalar.constants, Key.snakeCase s.toList ≠ x.name

theorem names_iff {x : Setting} (hx : x.Verbal) {key : Scalar} :
    x.names key = true ↔ ∃ t, key.Writes t ∧ Key.snakeCase t.toList = x.name := by
  constructor
  · intro h
    unfold names at h
    cases key with
    | str s => exact ⟨s, .str s, eq_of_beq h⟩
    | _ => cases h
  · rintro ⟨t, hwrites, hname⟩
    rcases hwrites.numeral with rfl | hconstant | ⟨c, hc, hnumeral⟩
    · exact beq_iff_eq.2 hname
    · exact absurd hname (hx.2 t hconstant)
    · have := hx.1 c (hname ▸ Key.mem_snakeCase hc hnumeral)
      rw [hnumeral] at this
      cases this

end Setting

theorem Scalar.snakeCase_constants : constants.map (Key.snakeCase ·.toList) =
    ["none", "true", "false", "nan", "inf"].map String.toList := by
  decide +kernel

theorem Setting.verbal_of {x : Setting} (hnumeral : x.name.all (!Scalar.isNumeral ·) = true)
    (hconstant : x.name ∉ ["none", "true", "false", "nan", "inf"].map String.toList) : x.Verbal := by
  refine ⟨by simpa using hnumeral, ?_⟩
  rintro s hs h
  rw [← Scalar.snakeCase_constants, ← h] at hconstant
  exact hconstant (List.mem_map_of_mem hs)

theorem CodeOption.verbal (f : CodeOption) : f.setting.Verbal := by
  rcases f with f | f | f <;> cases f <;> exact Setting.verbal_of (by decide) (by decide)

theorem MarkupOption.verbal (f : MarkupOption) : f.setting.Verbal := by
  cases f <;> exact Setting.verbal_of (by decide) (by decide)

namespace Setting
variable {x : Setting} {l : Layer}

theorem given_eq_some_iff {v : Value} : x.given l = some v ↔ ∃ before p behind, l = before ++ p :: behind ∧
    x.offer? p = some v ∧ ∀ q ∈ behind, x.offer? q = none := by
  rw [given, List.getLast?_filterMap, List.findSome?_eq_some_iff]
  constructor
  · rintro ⟨behind, p, before, hl, hp, hbehind⟩
    refine ⟨before.reverse, p, behind.reverse, ?_, hp, fun q hq => hbehind q (List.mem_reverse.1 hq)⟩
    rw [← List.reverse_reverse l, hl]
    simp
  · rintro ⟨before, p, behind, rfl, hp, hbehind⟩
    exact ⟨behind.reverse, p, before.reverse, by simp, hp, fun q hq => hbehind q (List.mem_reverse.1 hq)⟩

theorem given_eq_none_iff : x.given l = none ↔ ∀ p ∈ l, x.offer? p = none := by
  rw [given, List.getLast?_eq_none_iff, List.filterMap_eq_nil_iff]

end Setting

namespace Layer

/-- The entry is for the option of the name, which accepts its value and keeps it as `v`. -/
structure Usable (name : Text) (kind : OptionKind) (p : Scalar × Value) (v : Value) : Prop where
  named : ∃ t, p.1.Writes t ∧ Key.snakeCase t.toList = name
  accepted : kind.Accepts p.2 v

/-- The layer settles the option by its last usable entry, or leaves the value below it where it has none. -/
inductive Settles (name : Text) (kind : OptionKind) (l : Layer) (lower : Value) : Value → Prop
  | entry {before behind : Layer} {p : Scalar × Value} {v : Value} (hl : l = before ++ p :: behind)
      (hp : Usable name kind p v) (hbehind : ∀ q ∈ behind, ∀ w, ¬Usable name kind q w) : Settles name kind l lower v
  | lower (h : ∀ p ∈ l, ∀ v, ¬Usable name kind p v) : Settles name kind l lower lower

section
variable {x : Setting} {kind : OptionKind} (hx : x.Verbal) (hhold : x.hold? = kind.hold?)
include hx hhold

theorem offer?_eq_some_iff {p : Scalar × Value} {v : Value} : x.offer? p = some v ↔ Usable x.name kind p v := by
  rw [Setting.offer?, hhold, Option.ite_none_right_eq_some, Setting.names_iff hx, OptionKind.hold?_eq_some_iff]
  exact ⟨fun h => ⟨h.1, h.2⟩, fun h => ⟨h.1, h.2⟩⟩

theorem offer?_eq_none_iff {p : Scalar × Value} : x.offer? p = none ↔ ∀ v, ¬Usable x.name kind p v := by
  simp only [Option.eq_none_iff_forall_ne_some, ne_eq, offer?_eq_some_iff hx hhold]

theorem settles_iff {l : Layer} {lower v : Value} :
    Settles x.name kind l lower v ↔ (x.given l).getD lower = v := by
  constructor
  · rintro (⟨hl, hp, hbehind⟩ | h)
    · have hsome : x.given l = some v := Setting.given_eq_some_iff.2
        ⟨_, _, _, hl, (offer?_eq_some_iff hx hhold).2 hp, fun q hq => (offer?_eq_none_iff hx hhold).2 (hbehind q hq)⟩
      rw [hsome, Option.getD_some]
    · have hnone : x.given l = none :=
        Setting.given_eq_none_iff.2 fun p hp => (offer?_eq_none_iff hx hhold).2 (h p hp)
      rw [hnone, Option.getD_none]
  · rintro rfl
    cases hgiven : x.given l with
    | none =>
      exact .lower fun p hp => (offer?_eq_none_iff hx hhold).1 (Setting.given_eq_none_iff.1 hgiven p hp)
    | some v =>
      obtain ⟨before, p, behind, hl, hp, hbehind⟩ := Setting.given_eq_some_iff.1 hgiven
      exact .entry hl ((offer?_eq_some_iff hx hhold).1 hp)
        fun q hq => (offer?_eq_none_iff hx hhold).1 (hbehind q hq)

end

end Layer

namespace Options
variable {code html : Layer} {base : Options}

theorem build?_eq_some_iff {o : Options × List Rejection} :
    build? code html base = some o ↔ (∀ p ∈ code ++ html, p.1.hasText = true) ∧ build code html base = o := by
  rw [build?, Option.ite_none_right_eq_some, List.all_eq_true, Option.some.injEq]

/-- Only a number too long to be written out keeps options from being built. -/
theorem build?_eq_none_iff : build? code html base = none ↔
    ∃ p ∈ code ++ html, ∃ n, p.1 = .int n ∧ Number.tenTo Number.maxDigits ≤ n.natAbs := by
  have htext {key : Scalar} : ¬key.hasText = true ↔ ∃ n, key = .int n ∧ Number.tenTo Number.maxDigits ≤ n.natAbs := by
    cases key with
    | int n => simp [Scalar.hasText]
    | _ => simp [Scalar.hasText]
  rw [build?]
  by_cases hall : ((code ++ html).all fun p => p.1.hasText) = true
  · rw [if_pos hall]
    refine iff_of_false nofun ?_
    rintro ⟨p, hp, hlong⟩
    exact htext.2 hlong (List.all_eq_true.1 hall p hp)
  · rw [if_neg hall]
    rw [List.all_eq_true] at hall
    push Not at hall
    obtain ⟨p, hp, hn⟩ := hall
    exact iff_of_true rfl ⟨p, hp, htext.1 hn⟩

/-- Options are built of any two layers onto any base, unless a key is a number too long to be written out. Every option
for code and stylesheets then has the value that the last usable entry of the one layer gives it, and every markup
option that of the other, or else the value of the base; each accepts the value it has. The code layer has no say in the
markup options, and the markup layer none in the others. -/
theorem build?_settles (base : Options) (code html : Layer) :
    (build? code html base = none ↔
      ∃ p ∈ code ++ html, ∃ n, p.1 = .int n ∧ Number.tenTo Number.maxDigits ≤ n.natAbs) ∧
    ∀ o rejected, build? code html base = some (o, rejected) →
      (∀ (f : CodeOption) v, Layer.Settles f.setting.name f.kind code (base.get f) v ↔ o.get f = v) ∧
      (∀ (f : MarkupOption) v,
        Layer.Settles f.setting.name f.kind html (base.markup.get f) v ↔ o.markup.get f = v) ∧
      (∀ f : CodeOption, f.kind.Accepts (o.get f) (o.get f)) ∧
      (∀ f : MarkupOption, f.kind.Accepts (o.markup.get f) (o.markup.get f)) ∧
      (∀ code' o' rejected', build? code' html base = some (o', rejected') → o'.markup = o.markup) ∧
      ∀ html' o' rejected', build? code html' base = some (o', rejected') → ∀ f, o'.get f = o.get f := by
  refine ⟨build?_eq_none_iff, fun o rejected h => ?_⟩
  obtain ⟨-, hbuild⟩ := build?_eq_some_iff.1 h
  obtain rfl : (build code html base).1 = o := congrArg Prod.fst hbuild
  refine ⟨fun f v => ?_, fun f v => ?_, fun f => f.accepts_get _, fun f => f.accepts_get _,
    fun code' o' rejected' h' => ?_, fun html' o' rejected' h' f => ?_⟩
  · rw [Layer.settles_iff f.verbal f.hold?_eq, get_build]
  · rw [Layer.settles_iff f.verbal f.hold?_eq, get_markup_build]
  · obtain ⟨-, hbuild'⟩ := build?_eq_some_iff.1 h'
    rw [← show (build code' html base).1 = o' from congrArg Prod.fst hbuild']
    rfl
  · obtain ⟨-, hbuild'⟩ := build?_eq_some_iff.1 h'
    rw [← show (build code html' base).1 = o' from congrArg Prod.fst hbuild', get_build, get_build]

/-- A layer whose only key is the least number that is too long. -/
def longKey : Layer := [(.int (Number.tenTo Number.maxDigits), .scalar .null)]

/-- The key names no option, and is not passed over. -/
theorem build?_longKey : ¬∃ o, build? longKey [] .default = some o := by
  rintro ⟨o, h⟩
  have hnone : (build? longKey [] .default).isNone = true := by decide +kernel
  rw [h] at hnone
  cases hnone

end Options

end ComponentFormat
