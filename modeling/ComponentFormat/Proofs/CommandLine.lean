import Mathlib.Data.List.Nodup
import Std.Data.String.ToNat
import ComponentFormat.Engine.Command
import ComponentFormat.Proofs.Regions

/-! # Command lines keep the options

The arguments of an engine are the options written down one after another: the texts and counts with their names, then
the names of the flags that differ from what the command does by itself. What an argument stands for is known from its
place, so options are told apart also where their texts look like names (`Arguments.lossless`).
-/
namespace ComponentFormat

section
variable {α β ε : Type}

theorem mapM_eq_ok_iff {f : α → Except ε β} {fits : α → Prop} {g : α → β}
    (hf : ∀ a b, f a = .ok b ↔ fits a ∧ b = g a) {l : List α} {bs : List β} :
    l.mapM f = .ok bs ↔ (∀ a ∈ l, fits a) ∧ bs = l.map g := by
  induction l generalizing bs with
  | nil => simp [pure, Except.pure, eq_comm]
  | cons a l ih =>
    rw [List.mapM_cons, List.forall_mem_cons, List.map_cons, bind_eq_ok_iff]
    constructor
    · rintro ⟨b, hb, hrest⟩
      obtain ⟨more, hmore, hbs⟩ := bind_eq_ok_iff.1 hrest
      obtain ⟨hfit, rfl⟩ := (hf a b).1 hb
      obtain ⟨hfits, rfl⟩ := ih.1 hmore
      exact ⟨⟨hfit, hfits⟩, (Except.ok.inj hbs).symm⟩
    · rintro ⟨⟨hfit, hfits⟩, rfl⟩
      exact ⟨g a, (hf a _).2 ⟨hfit, rfl⟩, bind_eq_ok_iff.2 ⟨l.map g, ih.2 ⟨hfits, rfl⟩, rfl⟩⟩

/-- Where all names differ, the names that are kept tell which entries are. -/
theorem forall_eq_of_map_filter_eq {l : List α} {name : α → β} (hnodup : (l.map name).Nodup) {p q : α → Bool}
    (h : (l.filter p).map name = (l.filter q).map name) : ∀ a ∈ l, p a = q a := by
  have hkept (p : α → Bool) : ∀ a ∈ l, p a = true ↔ name a ∈ (l.filter p).map name := by
    intro a ha
    constructor
    · intro hp
      exact List.mem_map_of_mem (List.mem_filter.2 ⟨ha, hp⟩)
    · intro hname
      obtain ⟨b, hb, hsame⟩ := List.mem_map.1 hname
      obtain ⟨hb, hp⟩ := List.mem_filter.1 hb
      rwa [← List.inj_on_of_nodup_map hnodup hb ha hsame]
  intro a ha
  rw [Bool.eq_iff_iff, hkept p a ha, hkept q a ha, h]

theorem flatMap_named_inj {l : List (β × α)} {f g : α → β} {behind behind' : List β}
    (h : l.flatMap (fun x => [x.1, f x.2]) ++ behind = l.flatMap (fun x => [x.1, g x.2]) ++ behind') :
    (∀ x ∈ l, f x.2 = g x.2) ∧ behind = behind' := by
  induction l with
  | nil => exact ⟨by simp, h⟩
  | cons x l ih =>
    simp only [List.flatMap_cons, List.cons_append, List.nil_append, List.cons.injEq, true_and] at h
    obtain ⟨hfirst, hmore⟩ := h
    obtain ⟨hrest, hbehind⟩ := ih hmore
    exact ⟨List.forall_mem_cons.2 ⟨hfirst, hrest⟩, hbehind⟩

/-- A row of texts, each behind a mark, ends where no mark follows. The texts may be marks themselves. -/
theorem flatMap_marked_inj {mark : α} {xs ys behind behind' : List α} (hb : behind.head? ≠ some mark)
    (hb' : behind'.head? ≠ some mark)
    (h : xs.flatMap (fun x => [mark, x]) ++ behind = ys.flatMap (fun y => [mark, y]) ++ behind') :
    xs = ys ∧ behind = behind' := by
  induction xs generalizing ys with
  | nil =>
    cases ys with
    | nil => exact ⟨rfl, h⟩
    | cons y ys => exact absurd (congrArg List.head? h) hb
  | cons x xs ih =>
    cases ys with
    | nil => exact absurd (congrArg List.head? h).symm hb'
    | cons y ys =>
      simp only [List.flatMap_cons, List.cons_append, List.nil_append, List.cons.injEq, true_and] at h
      obtain ⟨rfl, hmore⟩ := h
      obtain ⟨rfl, hbehind⟩ := ih hmore
      exact ⟨rfl, hbehind⟩

end

namespace Arguments

/-- The count has no more digits than are written out. -/
def Writable (n : Nat) : Prop := n < Number.tenTo Number.maxDigits

theorem ofCount_eq_ok_iff {n : Nat} {s : String} : ofCount n = .ok s ↔ Writable n ∧ s = toString n := by
  unfold ofCount Writable
  split <;> simp [*, eq_comm]

/-! ## The code engine -/

namespace Valued

def Fits (o : Options) : Valued → Prop
  | word _ => True
  | count f => Writable (o.count f)

def shown (o : Options) : Valued → String
  | word f => o.word f
  | count f => toString (o.count f)

theorem text_eq_ok_iff {o : Options} {v : Valued} {s : String} : v.text o = .ok s ↔ v.Fits o ∧ s = v.shown o := by
  cases v with
  | word f => simp [text, Fits, shown, eq_comm]
  | count f => exact ofCount_eq_ok_iff

theorem exists_valued (v : Valued) : ∃ x ∈ valued, x.2 = v := by
  rw [← List.mem_map]
  rcases v with f | f <;> cases f <;> decide

theorem forall_fits_iff {o : Options} : (∀ x ∈ valued, x.2.Fits o) ↔ ∀ f, Writable (o.count f) := by
  constructor
  · intro h f
    obtain ⟨x, hx, he⟩ := exists_valued (.count f)
    have hfits := h x hx
    rwa [he] at hfits
  · intro h x _
    cases hv : x.2 with
    | word f => trivial
    | count f => exact h f

end Valued

/-- The flags with their names and with the setting in which the name is written. -/
def switches : List (String × Bool × FlagOption) :=
  negatable.map (fun x => (x.1, false, x.2)) ++ enabling.map fun x => (x.1, true, x.2)

def raised (o : Options) : List String :=
  (switches.filter fun x => o.flag x.2.2 == x.2.1).map Prod.fst

theorem flags_append (o : Options) : flags false negatable o ++ flags true enabling o = raised o := by
  simp [raised, switches, flags, List.filter_map, Function.comp_def]

theorem exists_switch (f : FlagOption) : ∃ x ∈ switches, x.2.2 = f := by
  rw [← List.mem_map]
  cases f <;> decide

theorem raised_inj {o o' : Options} (h : raised o = raised o') : o.flag = o'.flag := by
  have hnodup : (switches.map Prod.fst).Nodup := by decide
  funext f
  obtain ⟨x, hx, rfl⟩ := exists_switch f
  have hsame := forall_eq_of_map_filter_eq hnodup h x hx
  revert hsame
  cases o.flag x.2.2 <;> cases o'.flag x.2.2 <;> cases x.2.1 <;> simp

def codeLine (parser : String) (o : Options) : List String :=
  ["--no-config", "--no-editorconfig", "--parser", parser] ++ (valued.flatMap (fun x => [x.1, x.2.shown o]) ++ raised o)

theorem code_eq_ok_iff {parser : String} {o : Options} {line : List String} :
    code parser o = .ok line ↔ (∀ f, Writable (o.count f)) ∧ line = codeLine parser o := by
  have htext (x : String × Valued) (l : List String) :
      (do return [x.1, ← x.2.text o] : Except ToolError (List String)) = .ok l ↔
        x.2.Fits o ∧ l = [x.1, x.2.shown o] := by
    simp only [bind_eq_ok_iff, Valued.text_eq_ok_iff, pure, Except.pure, Except.ok.injEq]
    constructor
    · rintro ⟨s, ⟨hfits, rfl⟩, rfl⟩
      exact ⟨hfits, rfl⟩
    · rintro ⟨hfits, rfl⟩
      exact ⟨_, ⟨hfits, rfl⟩, rfl⟩
  rw [code, codeLine, bind_eq_ok_iff, ← Valued.forall_fits_iff, ← flags_append, ← List.append_assoc,
    ← List.append_assoc]
  constructor
  · rintro ⟨texts, htexts, hline⟩
    obtain ⟨hfits, rfl⟩ := (mapM_eq_ok_iff htext).1 htexts
    exact ⟨hfits, (Except.ok.inj hline).symm⟩
  · rintro ⟨hfits, rfl⟩
    exact ⟨_, (mapM_eq_ok_iff htext).2 ⟨hfits, rfl⟩, rfl⟩

theorem codeLine_inj {parser parser' : String} {o o' : Options} (h : codeLine parser o = codeLine parser' o') :
    parser = parser' ∧ o.word = o'.word ∧ o.count = o'.count ∧ o.flag = o'.flag := by
  obtain ⟨hfront, hbehind⟩ := List.append_inj h rfl
  obtain ⟨htexts, hraised⟩ := flatMap_named_inj hbehind
  have hshown (v : Valued) : v.shown o = v.shown o' := by
    obtain ⟨x, hx, rfl⟩ := Valued.exists_valued v
    exact htexts x hx
  refine ⟨by simpa using hfront, ?_, ?_, raised_inj hraised⟩
  · funext f
    exact hshown (.word f)
  · funext f
    exact Nat.repr_inj.1 (hshown (.count f))

/-! ## The markup engine -/

def markupFlags (m : MarkupOptions) : List String :=
  (if m.indentInnerHtml then ["--indent-inner-html"] else []) ++ if m.endWithNewline then ["--end-with-newline"] else []

theorem head?_markupFlags (m : MarkupOptions) : (markupFlags m).head? ≠ some "--unformatted" := by
  unfold markupFlags
  cases m.indentInnerHtml <;> cases m.endWithNewline <;> decide

theorem markupFlags_inj {m m' : MarkupOptions} (h : markupFlags m = markupFlags m') :
    m.indentInnerHtml = m'.indentInnerHtml ∧ m.endWithNewline = m'.endWithNewline := by
  unfold markupFlags at h
  revert h
  cases m.indentInnerHtml <;> cases m.endWithNewline <;> cases m'.indentInnerHtml <;> cases m'.endWithNewline <;> decide

def markupLine (m : MarkupOptions) : List String :=
  ["--wrap-attributes", m.wrapAttributes, "--wrap-line-length", toString m.wrapLineLength, "--indent-size",
    toString m.indentSize] ++ (m.unformatted.flatMap (fun tag => ["--unformatted", tag]) ++ markupFlags m)

theorem markup_eq_ok_iff {m : MarkupOptions} {line : List String} : markup m = .ok line ↔
    (Writable m.wrapLineLength ∧ Writable m.indentSize) ∧ line = markupLine m := by
  rw [markup, markupLine, markupFlags, ← List.append_assoc, ← List.append_assoc]
  simp only [bind_eq_ok_iff, ofCount_eq_ok_iff]
  constructor
  · rintro ⟨length, ⟨hlength, rfl⟩, size, ⟨hsize, rfl⟩, hline⟩
    exact ⟨⟨hlength, hsize⟩, (Except.ok.inj hline).symm⟩
  · rintro ⟨⟨hlength, hsize⟩, rfl⟩
    exact ⟨_, ⟨hlength, rfl⟩, _, ⟨hsize, rfl⟩, rfl⟩

theorem markupLine_inj {m m' : MarkupOptions} (h : markupLine m = markupLine m') : m = m' := by
  obtain ⟨hfront, hbehind⟩ := List.append_inj h rfl
  obtain ⟨htags, hflags⟩ := flatMap_marked_inj (head?_markupFlags m) (head?_markupFlags m') hbehind
  obtain ⟨hinner, hend⟩ := markupFlags_inj hflags
  simp only [List.cons.injEq, true_and, and_true] at hfront
  obtain ⟨hwrap, hlength, hsize⟩ := hfront
  rw [MarkupOptions.mk.injEq]
  exact ⟨hwrap, Nat.repr_inj.1 hlength, htags, Nat.repr_inj.1 hsize, hinner, hend⟩

/-- Options have the same command line exactly when they are the same: for the code engine the parser and every option
for code, for the markup engine every markup option with the tags in their order. There is a command line unless a count
has too many digits to be written out. -/
theorem lossless :
    (∀ parser parser' o o', (∃ line, code parser o = .ok line ∧ code parser' o' = .ok line) ↔
      (parser = parser' ∧ o.word = o'.word ∧ o.count = o'.count ∧ o.flag = o'.flag) ∧
        ∀ f, o.count f < Number.tenTo Number.maxDigits) ∧
    ∀ m m', (∃ line, markup m = .ok line ∧ markup m' = .ok line) ↔
      m = m' ∧ m.wrapLineLength < Number.tenTo Number.maxDigits ∧ m.indentSize < Number.tenTo Number.maxDigits := by
  constructor
  · intro parser parser' o o'
    simp only [code_eq_ok_iff]
    constructor
    · rintro ⟨line, ⟨hwritable, hline⟩, -, hline'⟩
      exact ⟨codeLine_inj (hline.symm.trans hline'), hwritable⟩
    · rintro ⟨⟨rfl, hword, hcount, hflag⟩, hwritable⟩
      have hsame : codeLine parser o = codeLine parser o' := by
        have hshown : ∀ v : Valued, v.shown o = v.shown o' := by
          rintro (f | f)
          · exact congrFun hword f
          · exact congrArg toString (congrFun hcount f)
        simp only [codeLine, raised, hshown, hflag]
      exact ⟨_, ⟨hwritable, rfl⟩, hcount ▸ hwritable, hsame⟩
  · intro m m'
    simp only [markup_eq_ok_iff]
    constructor
    · rintro ⟨line, ⟨hwritable, hline⟩, -, hline'⟩
      exact ⟨markupLine_inj (hline.symm.trans hline'), hwritable⟩
    · rintro ⟨rfl, hwritable⟩
      exact ⟨_, ⟨hwritable, rfl⟩, hwritable, rfl⟩

end Arguments

end ComponentFormat
