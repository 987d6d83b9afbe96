import Mathlib.Data.List.Nodup
import ComponentFormat.Proofs.Containment

/-! # Layers of settings, one over the other

What a layer gives an option is the last value in it that the option can hold. Layers are merged by their written keys
before any of them is looked at, so a value can be replaced by one that no option can hold, and an entry keeps its place
in front of another spelling. Where neither happens, the highest layer with a value decides, as it does when the layers
are taken in one after another (`Service.resolveOptions_layered`).
-/
namespace ComponentFormat

/-- An option as a layer sees it: the name it goes by, and what it keeps of a value that it can hold. -/
structure Setting where
  name : Text
  hold? : Value → Option Value

namespace Setting
variable (x : Setting)

/-- The key names the option, in either spelling. -/
def names (key : Scalar) : Bool :=
  match key.keyText? with
  | some k => Key.snakeCase k.toList == x.name
  | none => false

def offer? (p : Scalar × Value) : Option Value :=
  if x.names p.1 then x.hold? p.2 else none

/-- What a layer gives the option: the last value in it that the option can hold. -/
def given (l : Layer) : Option Value :=
  (l.filterMap x.offer?).getLast?

/-- What the last of several layers with a value for the option gives it. -/
def highest (part : Settings → Layer) (layers : List Settings) : Option Value :=
  layers.reverse.findSome? fun l => x.given (part l)

def entries (l : Layer) : Layer :=
  l.filter (x.names ·.1)

/-- The upper layer has at most one entry for the option. If the lower layer has that key too, then as its last entry
for the option, and with a value above that the option can hold. -/
structure Covers (lower upper : Layer) : Prop where
  once : (x.entries upper).length ≤ 1
  shared : ∀ p ∈ x.entries upper, ∀ before q behind, x.entries lower = before ++ q :: behind → (q.1 == p.1) = true →
    behind = [] ∧ (x.hold? p.2).isSome = true

@[simp] theorem given_nil : x.given [] = none := rfl

theorem given_append (l m : Layer) : x.given (l ++ m) = (x.given m).or (x.given l) := by
  simp [given, List.getLast?_append]

theorem given_singleton (p : Scalar × Value) : x.given [p] = x.offer? p := by
  cases h : x.offer? p <;> simp [given, h]

theorem given_cons (p : Scalar × Value) (l : Layer) : x.given (p :: l) = (x.given l).or (x.offer? p) := by
  rw [← List.singleton_append, given_append, given_singleton]

@[simp] theorem highest_nil (part : Settings → Layer) : x.highest part [] = none := rfl

theorem highest_cons (part : Settings → Layer) (l : Settings) (layers : List Settings) :
    x.highest part (l :: layers) = (x.highest part layers).or (x.given (part l)) := by
  simp [highest, List.findSome?_append]

theorem given_entries (l : Layer) : x.given (x.entries l) = x.given l := by
  induction l with
  | nil => rfl
  | cons p l ih =>
    by_cases h : x.names p.1
    · rw [entries, List.filter_cons, if_pos h, given_cons, given_cons, ← entries, ih]
    · have hoffer : x.offer? p = none := if_neg h
      rw [entries, List.filter_cons, if_neg h, given_cons, hoffer, Option.or_none, ← entries, ih]

theorem names_congr {k k' : Scalar} (h : (k == k') = true) : x.names k = x.names k' := by
  have hsame : k.same k' = true := h
  have htext : k.keyText? = k'.keyText? := by
    cases k <;> cases k' <;> simp_all [Scalar.same, Scalar.keyText?, Scalar.integral?]
  rw [names, names, htext]

end Setting

namespace Keyed

theorem put_cases {κ α : Type} [BEq κ] (key : κ) (value : α) (l : List (κ × α)) :
    ((∀ p ∈ l, (p.1 == key) = false) ∧ put key value l = l ++ [(key, value)]) ∨
    ∃ before p behind, l = before ++ p :: behind ∧ (p.1 == key) = true ∧
      put key value l = before ++ (p.1, value) :: behind := by
  induction l with
  | nil => exact .inl ⟨by simp, rfl⟩
  | cons p l ih =>
    by_cases hp : p.1 == key
    · exact .inr ⟨[], p, l, rfl, hp, if_pos hp⟩
    · have hput : put key value (p :: l) = p :: put key value l := if_neg hp
      rw [hput]
      rcases ih with ⟨hnone, h⟩ | ⟨before, q, behind, rfl, hq, h⟩
      · exact .inl ⟨by simpa [hp] using hnone, by rw [h, List.cons_append]⟩
      · exact .inr ⟨p :: before, q, behind, rfl, hq, by rw [h, List.cons_append]⟩

section
variable {κ α : Type} [BEq κ] {keep : κ → Bool} (hkeep : ∀ k k', (k == k') = true → keep k = keep k')
include hkeep

theorem filter_put (key : κ) (value : α) (l : List (κ × α)) :
    (put key value l).filter (keep ·.1) =
      if keep key then put key value (l.filter (keep ·.1)) else l.filter (keep ·.1) := by
  induction l with
  | nil => by_cases h : keep key <;> simp [put, h]
  | cons p l ih =>
    by_cases hp : p.1 == key
    · have := hkeep _ _ hp
      by_cases h : keep key <;> simp_all [put]
    · by_cases h : keep p.1 <;> by_cases hk : keep key <;> simp_all [put]

theorem filter_override (lower upper : List (κ × α)) :
    (override lower upper).filter (keep ·.1) =
      override (lower.filter (keep ·.1)) (upper.filter (keep ·.1)) := by
  induction upper generalizing lower with
  | nil => rfl
  | cons p upper ih =>
    show (override (put p.1 p.2 lower) upper).filter _ = _
    rw [ih, filter_put hkeep]
    by_cases h : keep p.1
    · rw [if_pos h, List.filter_cons, if_pos h]
      rfl
    · rw [if_neg h, List.filter_cons, if_neg h]

end

end Keyed

namespace Setting
variable {x : Setting}

theorem given_put {l : Layer} {p : Scalar × Value} (hp : x.names p.1 = true)
    (h : ∀ before q behind, l = before ++ q :: behind → (q.1 == p.1) = true →
      behind = [] ∧ (x.hold? p.2).isSome = true) :
    x.given (Keyed.put p.1 p.2 l) = (x.offer? p).or (x.given l) := by
  rcases Keyed.put_cases p.1 p.2 l with ⟨-, hput⟩ | ⟨before, q, behind, rfl, hq, hput⟩
  · rw [hput, given_append, given_singleton]
  · obtain ⟨rfl, hsome⟩ := h before q behind rfl hq
    have hoffer : x.offer? (q.1, p.2) = x.hold? p.2 := if_pos ((x.names_congr hq).trans hp)
    obtain ⟨v, hv⟩ := Option.isSome_iff_exists.1 hsome
    have hoffer' : x.offer? p = some v := (if_pos hp).trans hv
    rw [hput, given_append, given_singleton, hoffer, hoffer', hv, Option.some_or, Option.some_or]

/-- Of two merged layers the upper one decides, if it has a value. -/
theorem Covers.given_override {lower upper : Layer} (h : x.Covers lower upper) :
    x.given (Keyed.override lower upper) = (x.given upper).or (x.given lower) := by
  have hfilter : x.entries (Keyed.override lower upper) = Keyed.override (x.entries lower) (x.entries upper) :=
    Keyed.filter_override (fun _ _ => x.names_congr) lower upper
  rw [← x.given_entries (Keyed.override lower upper), hfilter, ← x.given_entries upper, ← x.given_entries lower]
  rcases hu : x.entries upper with _ | ⟨p, _ | ⟨q, more⟩⟩
  · rw [Keyed.override_nil, given_nil, Option.none_or]
  · have hp : p ∈ x.entries upper := by simp [hu]
    rw [given_singleton, ← given_put (List.mem_filter.1 hp).2 (h.shared p hp)]
    rfl
  · have := h.once
    simp [hu] at this

/-- Layers that have at most one entry for the option, the upper one with a value that the option can hold. -/
theorem Covers.of_single {lower upper : Layer} (hlower : (x.entries lower).length ≤ 1)
    (hupper : (x.entries upper).length ≤ 1) (hhold : ∀ p ∈ x.entries upper, (x.hold? p.2).isSome = true) :
    x.Covers lower upper where
  once := hupper
  shared p hp before q behind hl _ := by
    have hlen := congrArg List.length hl
    rw [List.length_append, List.length_cons] at hlen
    exact ⟨List.eq_nil_of_length_eq_zero (by omega), hhold p hp⟩

end Setting

inductive CodeOption where
  | word (f : WordOption)
  | count (f : CountOption)
  | flag (f : FlagOption)
  deriving DecidableEq

namespace CodeOption

def all : List CodeOption :=
  WordOption.all.map word ++ CountOption.all.map count ++ FlagOption.all.map flag

def setting : CodeOption → Setting
  | word f => ⟨f.name.toList, fun v => v.asWord?.map .ofString⟩
  | count f => ⟨f.name.toList, fun v => v.asCount?.map .ofNat⟩
  | flag f => ⟨f.name.toList, fun v => v.asFlag?.map .ofBool⟩

theorem mem_all (f : CodeOption) : f ∈ all := by
  rcases f with f | f | f <;> cases f <;> decide

theorem name_injective {f g : CodeOption} (h : f.setting.name = g.setting.name) : f = g := by
  have hnodup : (all.map (·.setting.name)).Nodup := by decide +kernel
  exact List.inj_on_of_nodup_map hnodup (mem_all f) (mem_all g) h

end CodeOption

def MarkupOption.setting (f : MarkupOption) : Setting where
  name := f.name.toList
  hold? v :=
    match f with
    | .wrapAttributes => v.asWord?.map .ofString
    | .wrapLineLength | .indentSize => v.asCount?.map .ofNat
    | .unformatted => v.asTags?.map fun ts => .list (ts.map .ofString)
    | .indentInnerHtml | .endWithNewline => v.asFlag?.map .ofBool

theorem MarkupOption.name_injective {f g : MarkupOption} (h : f.setting.name = g.setting.name) : f = g := by
  have hnodup : (all.map (·.setting.name)).Nodup := by decide +kernel
  have hall (f : MarkupOption) : f ∈ all := by cases f <;> decide
  exact List.inj_on_of_nodup_map hnodup (hall f) (hall g) h

def Options.get (o : Options) : CodeOption → Value
  | .word f => .ofString (o.word f)
  | .count f => .ofNat (o.count f)
  | .flag f => .ofBool (o.flag f)

def Taken.getD {α : Type} (t : Taken α) (o : α) : α :=
  match t with
  | .taken o => o
  | _ => o

namespace Layer
variable {α : Type} {set : α → Text → Value → Taken α}

/-- Where an entry sets the option that it names and no other, a layer sets it to the last value that it can hold. -/
theorem get_take (get : α → Value) {x : Setting}
    (hset : ∀ o name v, get ((set o name v).getD o) = if name = x.name then (x.hold? v).getD (get o) else get o)
    (o : α) (l : Layer) : get (take set o l).1 = (x.given l).getD (get o) := by
  induction l generalizing o with
  | nil => rfl
  | cons p l ih =>
    obtain ⟨key, v⟩ := p
    rw [Setting.given_cons, Setting.offer?, Setting.names]
    cases hkey : key.keyText? with
    | none => simp [take, hkey, ih]
    | some k =>
      have htake : (take set o ((key, v) :: l)).1 =
          (take set ((set o (Key.snakeCase k.toList) v).getD o) l).1 := by
        simp only [take, hkey]
        cases set o (Key.snakeCase k.toList) v <;> rfl
      rw [htake, ih, hset]
      cases x.given l <;> by_cases hk : Key.snakeCase k.toList = x.name <;> simp [hk]

end Layer

section
variable {φ : Type} {all : List φ} {name : φ → String} {t : Text} {f : φ}

theorem eq_name_of_find (h : all.find? (fun f => (name f).toList == t) = some f) : t = (name f).toList := by
  have hbeq : ((name f).toList == t) = true := List.find?_some (p := fun f => (name f).toList == t) h
  exact (eq_of_beq hbeq).symm

theorem ne_name_of_find (h : all.find? (fun f => (name f).toList == t) = none) (hf : f ∈ all) :
    t ≠ (name f).toList := by
  rintro rfl
  exact List.find?_eq_none.1 h f hf (beq_self_eq_true _)

end

theorem Taken.get_ofOption {α β φ : Type} {get : α → φ → Value} {setting : φ → Setting} [DecidableEq φ]
    (hinj : ∀ f g, (setting f).name = (setting g).name → f = g) {o : α} {put : β → α} {value : β → Value} {g : φ}
    {v : Value} {b? : Option β} (hput : ∀ b f, get (put b) f = if f = g then value b else get o f)
    (hhold : (setting g).hold? v = b?.map value) (expected : String) (f : φ) :
    get ((Taken.ofOption expected put b?).getD o) f =
      if (setting g).name = (setting f).name then ((setting f).hold? v).getD (get o f) else get o f := by
  by_cases hf : f = g
  · subst hf
    rw [if_pos rfl, hhold]
    cases b? with
    | none => rfl
    | some b => exact (hput b f).trans (if_pos rfl)
  · rw [if_neg fun h => hf (hinj _ _ h).symm]
    cases b? with
    | none => rfl
    | some b => exact (hput b f).trans (if_neg hf)

namespace Options

theorem get_set (f : CodeOption) (o : Options) (name : Text) (v : Value) :
    ((o.set name v).getD o).get f =
      if name = f.setting.name then (f.setting.hold? v).getD (o.get f) else o.get f := by
  have hinj (f g : CodeOption) := CodeOption.name_injective (f := f) (g := g)
  unfold set
  cases hw : WordOption.ofName? name with
  | some w =>
    rw [eq_name_of_find hw]
    refine Taken.get_ofOption (g := .word w) hinj (fun s f => ?_) rfl "str" f
    cases f <;> simp [get, setWord, apply_ite Value.ofString]
  | none =>
    cases hc : CountOption.ofName? name with
    | some c =>
      rw [eq_name_of_find hc]
      refine Taken.get_ofOption (g := .count c) hinj (fun s f => ?_) rfl "int" f
      cases f <;> simp [get, setCount, apply_ite Value.ofNat]
    | none =>
      cases hg : FlagOption.ofName? name with
      | some g =>
        rw [eq_name_of_find hg]
        refine Taken.get_ofOption (g := .flag g) hinj (fun s f => ?_) rfl "bool" f
        cases f <;> simp [get, setFlag, apply_ite Value.ofBool]
      | none =>
        have hname : name ≠ f.setting.name := by
          rcases f with f | f | f
          · exact ne_name_of_find hw (by cases f <;> decide)
          · exact ne_name_of_find hc (by cases f <;> decide)
          · exact ne_name_of_find hg (by cases f <;> decide)
        rw [if_neg hname]
        rfl

theorem get_build (f : CodeOption) (code html : Layer) (o : Options) :
    (build code html o).1.get f = (f.setting.given code).getD (o.get f) := by
  rw [← Layer.get_take (fun o => o.get f) (get_set f) o code]
  cases f <;> rfl

end Options

theorem MarkupOptions.get_set (f : MarkupOption) (m : MarkupOptions) (name : Text) (v : Value) :
    ((m.set name v).getD m).get f =
      if name = f.setting.name then (f.setting.hold? v).getD (m.get f) else m.get f := by
  have hinj (f g : MarkupOption) := MarkupOption.name_injective (f := f) (g := g)
  unfold set
  cases hn : MarkupOption.ofName? name with
  | some g =>
    rw [eq_name_of_find hn]
    cases g with
    | wrapAttributes => exact Taken.get_ofOption (g := .wrapAttributes) hinj (fun s f => by cases f <;> rfl) rfl _ f
    | wrapLineLength => exact Taken.get_ofOption (g := .wrapLineLength) hinj (fun s f => by cases f <;> rfl) rfl _ f
    | unformatted => exact Taken.get_ofOption (g := .unformatted) hinj (fun s f => by cases f <;> rfl) rfl _ f
    | indentSize => exact Taken.get_ofOption (g := .indentSize) hinj (fun s f => by cases f <;> rfl) rfl _ f
    | indentInnerHtml => exact Taken.get_ofOption (g := .indentInnerHtml) hinj (fun s f => by cases f <;> rfl) rfl _ f
    | endWithNewline => exact Taken.get_ofOption (g := .endWithNewline) hinj (fun s f => by cases f <;> rfl) rfl _ f
  | none =>
    have hname : name ≠ f.setting.name := ne_name_of_find hn (by cases f <;> decide)
    rw [if_neg hname]
    rfl

namespace Options

theorem get_markup_build (f : MarkupOption) (code html : Layer) (o : Options) :
    (build code html o).1.markup.get f = (f.setting.given html).getD (o.markup.get f) :=
  Layer.get_take (fun m => m.get f) (MarkupOptions.get_set f) o.markup html

/-- The options with layers of settings taken in one after another, each onto what the ones before have made. -/
def stack (layers : List Settings) (o : Options) : Options :=
  layers.foldl (fun o l => (build l.code l.html o).1) o

theorem get_foldl {α : Type} (get : α → Value) {step : α → Settings → α} {x : Setting} {part : Settings → Layer}
    (hstep : ∀ o l, get (step o l) = (x.given (part l)).getD (get o)) (layers : List Settings) (o : α) :
    get (layers.foldl step o) = (x.highest part layers).getD (get o) := by
  induction layers generalizing o with
  | nil => rfl
  | cons l layers ih =>
    rw [List.foldl_cons, ih, hstep, Setting.highest_cons, Option.getD_or]

theorem get_stack (f : CodeOption) (layers : List Settings) (o : Options) :
    (stack layers o).get f = (f.setting.highest (·.code) layers).getD (o.get f) :=
  get_foldl (fun o => o.get f) (fun o l => get_build f l.code l.html o) layers o

theorem get_markup_stack (f : MarkupOption) (layers : List Settings) (o : Options) :
    (stack layers o).markup.get f = (f.setting.highest (·.html) layers).getD (o.markup.get f) :=
  get_foldl (fun o => o.markup.get f) (fun o l => get_markup_build f l.code l.html o) layers o

end Options

namespace Service
variable (s : Service) (files : FileTree) (root : Option Path) (settings : Option Settings)

/-- The settings that the options of a request are made of, the lowest first: those of the environment, of the request,
and of the project, which has none for the markup engine. -/
def layers : List Settings :=
  [s.settings, settings.getD .empty, ⟨(s.resolver root settings).project files, []⟩]

theorem settings_resolver : (s.resolver root settings).settings = s.settings.override (settings.getD .empty) := by
  cases settings <;> rfl

section
variable {s files root settings} {x : Setting}

/-- In layers that cover the ones below them the highest one with a value decides. -/
theorem given_codeLayer (hlower : x.Covers s.settings.code (settings.getD .empty).code)
    (hupper : x.Covers (s.resolver root settings).settings.code ((s.resolver root settings).project files)) :
    x.given ((s.resolver root settings).codeLayer ((s.resolver root settings).project files)) =
      x.highest (·.code) (s.layers files root settings) := by
  rw [Resolver.codeLayer, hupper.given_override, settings_resolver, Settings.override, hlower.given_override]
  simp [layers, Setting.highest_cons, Option.or_assoc]

theorem given_html (h : x.Covers s.settings.html (settings.getD .empty).html) :
    x.given (s.resolver root settings).settings.html = x.highest (·.html) (s.layers files root settings) := by
  rw [settings_resolver, Settings.override, h.given_override]
  simp [layers, Setting.highest_cons]

end

/-- The options of a request. An option for code or stylesheets has the last value that it can hold in the merged
settings. Where each layer covers the ones below it, this is the value of the highest layer that has one, as when the
layers are taken in one after another; so it is for the markup options, which are the same whatever the project says. -/
theorem resolveOptions_layered (hload : (s.resolver root settings).Loadable files)
    (hwritten : (s.resolver root settings).Written ((s.resolver root settings).project files)) :
    ∃ o, (s.resolveOptions files root settings).result = .ok o ∧
      (∀ f : CodeOption, o.get f = (f.setting.given ((s.resolver root settings).codeLayer
        ((s.resolver root settings).project files))).getD (Options.default.get f)) ∧
      (∀ f : CodeOption, f.setting.Covers s.settings.code (settings.getD .empty).code →
        f.setting.Covers (s.resolver root settings).settings.code ((s.resolver root settings).project files) →
        o.get f = (f.setting.highest (·.code) (s.layers files root settings)).getD (Options.default.get f) ∧
          o.get f = (Options.stack (s.layers files root settings) .default).get f) ∧
      (∀ f : MarkupOption, f.setting.Covers s.settings.html (settings.getD .empty).html →
        o.markup.get f =
            (f.setting.highest (·.html) (s.layers files root settings)).getD (Options.default.markup.get f) ∧
          o.markup.get f = (Options.stack (s.layers files root settings) .default).markup.get f) ∧
      ∀ files' root' o', (s.resolveOptions files' root' settings).result = .ok o' → o'.markup = o.markup := by
  refine ⟨_, (result_resolveOptions_iff s files root settings).2 ⟨hload, hwritten, rfl⟩, fun f => ?_,
    fun f hlower hupper => ?_, fun f hcovers => ?_, fun files' root' o' h => ?_⟩
  · exact Options.get_build f _ _ .default
  · rw [Options.get_stack, and_self, ← given_codeLayer hlower hupper]
    exact Options.get_build f _ _ .default
  · rw [Options.get_markup_stack, and_self, ← given_html hcovers]
    exact Options.get_markup_build f _ _ .default
  · obtain ⟨-, -, rfl⟩ := (result_resolveOptions_iff s files' root' settings).1 h
    rfl

def configured (text : String) : FileTree := ⟨[([".prettierrc"], .file text.toUTF8)]⟩

def here : Option Path := some (Path.ofString ".")

def narrow : Service := ⟨Reindent.engines, ⟨[(.str "tabWidth", .ofNat 2)], []⟩⟩

def threeColumns : Settings := ⟨[(.str "tab_width", .ofNat 3)], []⟩

def tabWidth? (layers : List Settings) : Option Nat :=
  ((CodeOption.count .tabWidth).setting.highest (·.code) layers).bind Value.asCount?

theorem resolveOptions_layered_narrow :
    (narrow.resolver here none).Loadable (configured "tabWidth: 8") ∧
    (narrow.resolver here none).Written
      ((narrow.resolver here none).project (configured "tabWidth: 8")) ∧
    ∃ o, (narrow.resolveOptions (configured "tabWidth: 8") here none).result = .ok o ∧
      o.count .tabWidth = 8 := by
  have hok : (narrow.resolveOptions (configured "tabWidth: 8") here none).result.toOption.isSome
      = true := by decide +kernel
  rcases hr : (narrow.resolveOptions (configured "tabWidth: 8") here none).result with _ | _
  · rw [hr] at hok
    cases hok
  obtain ⟨hload, hwritten, -⟩ := (result_resolveOptions_iff ..).1 hr
  have hlower : (CodeOption.count .tabWidth).setting.Covers narrow.settings.code [] :=
    .of_single (by decide +kernel) (by decide +kernel) (by simp [Setting.entries])
  have hupper : (CodeOption.count .tabWidth).setting.Covers (narrow.resolver here none).settings.code
      ((narrow.resolver here none).project (configured "tabWidth: 8")) :=
    .of_single (by decide +kernel) (by decide +kernel) (List.all_eq_true.1 (by decide +kernel))
  obtain ⟨o, ho, -, hcode, -⟩ := resolveOptions_layered narrow _ _ none hload hwritten
  have hcount : some (o.count .tabWidth) = some 8 := by
    have hhighest : tabWidth? (narrow.layers (configured "tabWidth: 8") here none) = some 8 := by
      decide +kernel
    obtain ⟨v, hv, hv8⟩ := Option.bind_eq_some_iff.1 hhighest
    have hget := (hcode _ hlower hupper).1
    rw [hv] at hget
    exact (congrArg Value.asCount? hget).trans hv8
  exact ⟨hload, hwritten, o, hr.symm.trans ho, Option.some.inj hcount⟩

/-- A value that the option cannot hold, above one that it can, leaves the value that is built in; and a spelling below
hides the value above it. -/
theorem resolveOptions_hidden :
    ((narrow.resolveOptions (configured "tabWidth: wide") here none).result.toOption.map
        (·.count .tabWidth) = some 4 ∧
      tabWidth? (narrow.layers (configured "tabWidth: wide") here none) = some 2) ∧
    (narrow.resolveOptions (configured "tabWidth: 8") here (some threeColumns)).result.toOption.map
        (·.count .tabWidth) = some 3 ∧
      tabWidth? (narrow.layers (configured "tabWidth: 8") here (some threeColumns)) = some 8 := by
  decide +kernel

end Service

end ComponentFormat
