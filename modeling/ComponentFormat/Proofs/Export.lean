import ComponentFormat.Proofs.Acceptance

/-! # Exported options load back

Options are exported under their names in camel case, each with the value that it has: a text, a number from zero on, a
truth value, or a list of tags. Laid onto any other options, in whatever order, the entries give the same options again,
and no value is reported (`Options.build?_exported`).
-/
namespace ComponentFormat

namespace Setting

def key (x : Setting) : Scalar :=
  .str (String.ofList (Key.camelCase x.name))

/-- The name of the option is the one that its exported key is read as. -/
def Survives (x : Setting) : Prop :=
  Key.snakeCase (Key.camelCase x.name) = x.name

theorem Survives.names_key {x : Setting} (h : x.Survives) (y : Setting) : y.names x.key = true ↔ x.name = y.name := by
  rw [names, key, Scalar.keyText?]
  dsimp only
  rw [String.toList_ofList, h, beq_iff_eq]

end Setting

namespace Layer
variable {φ : Type} {setting : φ → Setting} {get : φ → Value} {l : Layer}

/-- The entries are those of the options under their exported keys, in any order. -/
def Exports (setting : φ → Setting) (get : φ → Value) (l : Layer) : Prop :=
  ∀ p, p ∈ l ↔ ∃ f, p = ((setting f).key, get f)

section
variable (hsurvives : ∀ f, (setting f).Survives) (hinj : ∀ {f g}, (setting f).name = (setting g).name → f = g)
  (hhold : ∀ f, (setting f).hold? (get f) = some (get f))
include hsurvives hinj hhold

/-- An exported layer gives every option the value that it has been exported with. -/
theorem Exports.given_eq (h : Exports setting get l) (f : φ) : (setting f).given l = some (get f) := by
  cases hgiven : (setting f).given l with
  | none =>
    have hoffer := Setting.given_eq_none_iff.1 hgiven _ ((h _).2 ⟨f, rfl⟩)
    rw [Setting.offer?, if_pos (((hsurvives f).names_key _).2 rfl), hhold] at hoffer
    cases hoffer
  | some v =>
    obtain ⟨before, p, behind, hl, hoffer, -⟩ := Setting.given_eq_some_iff.1 hgiven
    obtain ⟨g, rfl⟩ := (h p).1 (by simp [hl])
    obtain ⟨hnames, hv⟩ := Option.ite_none_right_eq_some.1 hoffer
    obtain rfl := hinj (((hsurvives g).names_key _).1 hnames)
    exact hv.symm.trans (hhold g)

end

/-- Where no entry has a value that its option cannot hold, nothing is reported. -/
theorem snd_take_eq_nil {α : Type} {set : α → Text → Value → Taken α}
    (h : ∀ p ∈ l, ∀ k, p.1.keyText? = some k → ∀ o e, set o (Key.snakeCase k.toList) p.2 ≠ .unusable e) (o : α) :
    (take set o l).2 = [] := by
  induction l generalizing o with
  | nil => rfl
  | cons p l ih =>
    obtain ⟨hp, hl⟩ := List.forall_mem_cons.1 h
    obtain ⟨key, v⟩ := p
    cases hkey : key.keyText? with
    | none => simpa [take, hkey] using ih hl o
    | some k =>
      cases hset : set o (Key.snakeCase k.toList) v with
      | unknown => simpa [take, hkey, hset] using ih hl o
      | unusable e => exact absurd hset (hp k hkey o e)
      | taken o' => simpa [take, hkey, hset] using ih hl o'

theorem Exports.snd_take_eq_nil {α : Type} {set : α → Text → Value → Taken α} (h : Exports setting get l)
    (hsurvives : ∀ f, (setting f).Survives) (hhold : ∀ f, (setting f).hold? (get f) = some (get f))
    (hset : ∀ o name v e, set o name v = .unusable e → ∃ f, name = (setting f).name ∧ (setting f).hold? v = none)
    (hinj : ∀ {f g}, (setting f).name = (setting g).name → f = g) (o : α) : (take set o l).2 = [] := by
  refine Layer.snd_take_eq_nil (fun p hp k hk o e hunusable => ?_) o
  obtain ⟨f, rfl⟩ := (h p).1 hp
  obtain rfl : String.ofList (Key.camelCase (setting f).name) = k := Option.some.inj hk
  rw [String.toList_ofList, hsurvives f] at hunusable
  obtain ⟨g, hname, hnone⟩ := hset _ _ _ _ hunusable
  obtain rfl := hinj hname
  rw [hhold f] at hnone
  cases hnone

end Layer

theorem Taken.eq_none_of_unusable {α β : Type} {expected e : String} {put : β → α} {b? : Option β}
    (h : ofOption expected put b? = .unusable e) : b? = none := by
  cases b? with
  | none => rfl
  | some b => cases h

namespace CodeOption

theorem survives (f : CodeOption) : f.setting.Survives := by
  have hall : ∀ f ∈ all, Key.snakeCase (Key.camelCase f.setting.name) = f.setting.name := by decide +kernel
  exact hall f f.mem_all

theorem exports_toLayer (o : Options) : Layer.Exports setting o.get o.toLayer := by
  intro p
  have hlayer : o.toLayer = all.map fun f => (f.setting.key, o.get f) := by
    simp only [all, Options.toLayer, List.map_append, List.map_map]
    rfl
  rw [hlayer, List.mem_map]
  constructor
  · rintro ⟨f, -, rfl⟩
    exact ⟨f, rfl⟩
  · rintro ⟨f, rfl⟩
    exact ⟨f, f.mem_all, rfl⟩

theorem hold?_get (f : CodeOption) (o : Options) : f.setting.hold? (o.get f) = some (o.get f) := by
  rw [hold?_eq]
  exact OptionKind.hold?_eq_some_iff.2 (f.accepts_get o)

theorem exists_of_unusable {o : Options} {name : Text} {v : Value} {e : String} (h : o.set name v = .unusable e) :
    ∃ f : CodeOption, name = f.setting.name ∧ f.setting.hold? v = none := by
  unfold Options.set at h
  cases hw : WordOption.ofName? name with
  | some f =>
    rw [hw] at h
    exact ⟨.word f, eq_name_of_find hw, Option.map_eq_none_iff.2 (Taken.eq_none_of_unusable h)⟩
  | none =>
    cases hc : CountOption.ofName? name with
    | some f =>
      rw [hw, hc] at h
      exact ⟨.count f, eq_name_of_find hc, Option.map_eq_none_iff.2 (Taken.eq_none_of_unusable h)⟩
    | none =>
      cases hg : FlagOption.ofName? name with
      | some f =>
        rw [hw, hc, hg] at h
        exact ⟨.flag f, eq_name_of_find hg, Option.map_eq_none_iff.2 (Taken.eq_none_of_unusable h)⟩
      | none =>
        rw [hw, hc, hg] at h
        cases h

end CodeOption

namespace MarkupOption

theorem mem_all (f : MarkupOption) : f ∈ all := by
  cases f <;> decide

theorem survives (f : MarkupOption) : f.setting.Survives := by
  have hall : ∀ f ∈ all, Key.snakeCase (Key.camelCase f.setting.name) = f.setting.name := by decide +kernel
  exact hall f f.mem_all

theorem exports_toLayer (m : MarkupOptions) : Layer.Exports setting m.get m.toLayer := by
  intro p
  rw [MarkupOptions.toLayer, List.mem_map]
  constructor
  · rintro ⟨f, -, rfl⟩
    exact ⟨f, rfl⟩
  · rintro ⟨f, rfl⟩
    exact ⟨f, f.mem_all, rfl⟩

theorem hold?_get (f : MarkupOption) (m : MarkupOptions) : f.setting.hold? (m.get f) = some (m.get f) := by
  rw [hold?_eq]
  exact OptionKind.hold?_eq_some_iff.2 (f.accepts_get m)

theorem exists_of_unusable {m : MarkupOptions} {name : Text} {v : Value} {e : String} (h : m.set name v = .unusable e) :
    ∃ f : MarkupOption, name = f.setting.name ∧ f.setting.hold? v = none := by
  unfold MarkupOptions.set at h
  cases hn : MarkupOption.ofName? name with
  | none =>
    rw [hn] at h
    cases h
  | some f =>
    rw [hn] at h
    refine ⟨f, eq_name_of_find hn, ?_⟩
    cases f <;> exact Option.map_eq_none_iff.2 (Taken.eq_none_of_unusable h)

end MarkupOption

namespace Value

theorem ofString_inj {s s' : String} (h : ofString s = ofString s') : s = s' :=
  Option.some.inj (congrArg asWord? h)

theorem ofNat_inj {n n' : Nat} (h : ofNat n = ofNat n') : n = n' :=
  Option.some.inj (congrArg asCount? h)

theorem ofBool_inj {b b' : Bool} (h : ofBool b = ofBool b') : b = b' :=
  Option.some.inj (congrArg asFlag? h)

theorem list_ofString_inj {ts ts' : List String} (h : list (ts.map ofString) = list (ts'.map ofString)) : ts = ts' :=
  List.map_injective_iff.2 (fun _ _ => ofString_inj) (list.inj h)

end Value

theorem MarkupOptions.ext_get {m m' : MarkupOptions} (h : ∀ f, m.get f = m'.get f) : m = m' := by
  rw [mk.injEq]
  exact ⟨Value.ofString_inj (h .wrapAttributes), Value.ofNat_inj (h .wrapLineLength),
    Value.list_ofString_inj (h .unformatted), Value.ofNat_inj (h .indentSize),
    Value.ofBool_inj (h .indentInnerHtml), Value.ofBool_inj (h .endWithNewline)⟩

namespace Options

theorem ext_get {o o' : Options} (hcode : ∀ f, o.get f = o'.get f) (hmarkup : o.markup = o'.markup) : o = o' := by
  rw [mk.injEq]
  refine ⟨?_, ?_, ?_, hmarkup⟩
  · funext f
    exact Value.ofString_inj (hcode (.word f))
  · funext f
    exact Value.ofNat_inj (hcode (.count f))
  · funext f
    exact Value.ofBool_inj (hcode (.flag f))

/-- Exported options, laid onto any others in any order, are the options again, and nothing is reported. The names of
all options come back from their exported keys. -/
theorem build?_exported (o base : Options) {code html : Layer} (hcode : code.Perm o.toLayer)
    (hhtml : html.Perm o.markup.toLayer) : build? code html base = some (o, []) ∧
      (∀ f : CodeOption, Key.snakeCase (Key.camelCase f.setting.name) = f.setting.name) ∧
      ∀ f : MarkupOption, Key.snakeCase (Key.camelCase f.setting.name) = f.setting.name := by
  have hcode : Layer.Exports CodeOption.setting o.get code := fun p =>
    hcode.mem_iff.trans (CodeOption.exports_toLayer o p)
  have hhtml : Layer.Exports MarkupOption.setting o.markup.get html := fun p =>
    hhtml.mem_iff.trans (MarkupOption.exports_toLayer o.markup p)
  refine ⟨build?_eq_some_iff.2 ⟨?_, ?_⟩, CodeOption.survives, MarkupOption.survives⟩
  · intro p hp
    rcases List.mem_append.1 hp with hp | hp
    · obtain ⟨f, rfl⟩ := (hcode p).1 hp
      rfl
    · obtain ⟨f, rfl⟩ := (hhtml p).1 hp
      rfl
  · have hget (f : CodeOption) : (build code html base).1.get f = o.get f := by
      rw [get_build, hcode.given_eq CodeOption.survives CodeOption.name_injective (CodeOption.hold?_get · o)]
      rfl
    have hmarkup (f : MarkupOption) : (build code html base).1.markup.get f = o.markup.get f := by
      rw [get_markup_build,
        hhtml.given_eq MarkupOption.survives MarkupOption.name_injective (MarkupOption.hold?_get · o.markup)]
      rfl
    have hreports : (build code html base).2 = [] := by
      refine List.append_eq_nil_iff.2 ⟨?_, ?_⟩
      · exact hhtml.snd_take_eq_nil MarkupOption.survives (MarkupOption.hold?_get · o.markup)
          (fun _ _ _ _ => MarkupOption.exists_of_unusable) MarkupOption.name_injective base.markup
      · exact hcode.snd_take_eq_nil CodeOption.survives (CodeOption.hold?_get · o)
          (fun _ _ _ _ => CodeOption.exists_of_unusable) CodeOption.name_injective base
    exact Prod.ext (ext_get hget (MarkupOptions.ext_get hmarkup)) hreports

/-- Options with empty texts, a long count, and tags with commas, blanks or nothing in them. -/
def unusual : Options where
  word _ := ""
  count _ := Number.tenTo 30
  flag _ := false
  markup := ⟨"", 0, ["a,b", " ", "", "br "], Number.tenTo 30, true, true⟩

theorem build?_exported_reversed :
    unusual.toLayer.reverse.Perm unusual.toLayer ∧ unusual.markup.toLayer.reverse.Perm unusual.markup.toLayer ∧
      build? unusual.toLayer.reverse unusual.markup.toLayer.reverse .default = some (unusual, []) := by
  have hcode := List.reverse_perm unusual.toLayer
  have hhtml := List.reverse_perm unusual.markup.toLayer
  exact ⟨hcode, hhtml, (build?_exported unusual .default hcode hhtml).1⟩

end Options

end ComponentFormat
