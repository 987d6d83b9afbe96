import ComponentFormat.Proofs.Extraction

/-! # The place of a block

A block is a template, a script, a setup script, a style or a custom block by its name and, among scripts, by its
`setup` attribute (`Block.slot_iff`). A component that is read has its blocks sorted in this way
(`Component.sorts_blocks`), and all but the custom ones are of a kind that becomes a region
(`Block.kind?_eq_some_iff`).
-/
namespace ComponentFormat

namespace Block
variable {b : Block}

/-- The block has a `setup` attribute, with no value or with one that is not empty. -/
def Setup (b : Block) : Prop :=
  ∃ value, b.attributes.value? "setup" = some value ∧ value ≠ some []

theorem isSetup_iff : b.isSetup = true ↔ b.Setup := by
  rw [isSetup, Attributes.isSet, Setup]
  rcases b.attributes.value? "setup" with _ | _ | value
  · simp
  · simp
  · simp

/-- The names of the blocks that become regions. -/
def formattedNames : List Text := ["template".toList, "script".toList, "style".toList]

/-- The kind of the region that a block becomes. -/
inductive OfKind (b : Block) : RegionKind → Prop
  | markup (hname : b.name = "template".toList) : OfKind b .markup
  | script (hname : b.name = "script".toList) (hsetup : ¬b.Setup) : OfKind b .script
  | scriptSetup (hname : b.name = "script".toList) (hsetup : b.Setup) : OfKind b .scriptSetup
  | style (hname : b.name = "style".toList) : OfKind b .style

/-- The slot of a block is told by its name, and among scripts by its `setup` attribute. -/
theorem slot_iff : (b.slot = .single .template ↔ b.name = "template".toList) ∧
    (b.slot = .single .script ↔ b.name = "script".toList ∧ ¬b.Setup) ∧
    (b.slot = .single .scriptSetup ↔ b.name = "script".toList ∧ b.Setup) ∧
    (b.slot = .style ↔ b.name = "style".toList) ∧ (b.slot = .custom ↔ b.name ∉ formattedNames) := by
  rw [← isSetup_iff, slot]
  by_cases htemplate : b.name = "template".toList
  · simp [htemplate, formattedNames]
  by_cases hscript : b.name = "script".toList
  · cases b.isSetup <;> simp [hscript, formattedNames]
  by_cases hstyle : b.name = "style".toList
  · simp [hstyle, formattedNames]
  · rw [if_neg htemplate, if_neg hscript, if_neg hstyle]
    refine ⟨iff_of_false nofun htemplate, iff_of_false nofun fun h => hscript h.1,
      iff_of_false nofun fun h => hscript h.1, iff_of_false nofun hstyle, iff_of_true rfl ?_⟩
    simp only [formattedNames, List.mem_cons, List.not_mem_nil, or_false, not_or]
    exact ⟨htemplate, hscript, hstyle⟩

theorem kind?_eq_some_iff {kind : RegionKind} : b.slot.kind? = some kind ↔ b.OfKind kind := by
  obtain ⟨htemplate, hscript, hsetup, hstyle, -⟩ := b.slot_iff
  constructor
  · intro h
    rcases hs : b.slot with (_ | _ | _) | _ | _
    · rw [hs] at h
      cases h
      exact .markup (htemplate.1 hs)
    · rw [hs] at h
      cases h
      exact .script (hscript.1 hs).1 (hscript.1 hs).2
    · rw [hs] at h
      cases h
      exact .scriptSetup (hsetup.1 hs).1 (hsetup.1 hs).2
    · rw [hs] at h
      cases h
      exact .style (hstyle.1 hs)
    · rw [hs] at h
      cases h
  · rintro (hname | ⟨hname, hnone⟩ | ⟨hname, hset⟩ | hname)
    · rw [htemplate.2 hname, Slot.kind?]
    · rw [hscript.2 ⟨hname, hnone⟩, Slot.kind?]
    · rw [hsetup.2 ⟨hname, hset⟩, Slot.kind?]
    · rw [hstyle.2 hname, Slot.kind?]

theorem isSome_kind?_iff : b.slot.kind?.isSome = true ↔ b.name ∈ formattedNames := by
  obtain ⟨-, -, -, -, hcustom⟩ := b.slot_iff
  rw [← not_iff_not, ← hcustom]
  rcases b.slot with (_ | _ | _) | _ | _ <;> simp [Slot.kind?]

end Block

namespace Component

/-- The component has the blocks sorted by their names: the template, the script and the setup script if there are
such blocks, the styles, and all blocks of other names. -/
structure Sorts (c : Component) (blocks : List Placed) : Prop where
  template : ∀ p, c.single? .template = some p ↔ p ∈ blocks ∧ p.block.name = "template".toList
  script : ∀ p, c.single? .script = some p ↔ p ∈ blocks ∧ p.block.name = "script".toList ∧ ¬p.block.Setup
  scriptSetup : ∀ p, c.single? .scriptSetup = some p ↔ p ∈ blocks ∧ p.block.name = "script".toList ∧ p.block.Setup
  styles : c.styles = blocks.filter (·.block.name = "style".toList)
  customBlocks : c.customBlocks = blocks.filter (·.block.name ∉ Block.formattedNames)

theorem single?_eq_some_iff {t : Text} {c : Component} (h : ofText t = .ok c) {kind : Singleton} {p : Placed} :
    c.single? kind = some p ↔ p ∈ c.blocks ∧ p.block.slot = .single kind := by
  have hone := length_inSlot_single_le h kind
  rw [← mem_inSlot, single?]
  generalize c.inSlot (.single kind) = found at hone ⊢
  rcases found with _ | ⟨q, _ | ⟨r, more⟩⟩
  · simp
  · simp [eq_comm]
  · simp at hone

theorem sorts_blocks {t : Text} {c : Component} (h : ofText t = .ok c) : c.Sorts c.blocks where
  template p := by
    obtain ⟨htemplate, -⟩ := p.block.slot_iff
    rw [single?_eq_some_iff h, htemplate]
  script p := by
    obtain ⟨-, hscript, -⟩ := p.block.slot_iff
    rw [single?_eq_some_iff h, hscript]
  scriptSetup p := by
    obtain ⟨-, -, hsetup, -⟩ := p.block.slot_iff
    rw [single?_eq_some_iff h, hsetup]
  styles := List.filter_congr fun p _ => by
    obtain ⟨-, -, -, hstyle, -⟩ := p.block.slot_iff
    rw [decide_eq_decide, hstyle]
  customBlocks := List.filter_congr fun p _ => by
    obtain ⟨-, -, -, -, hcustom⟩ := p.block.slot_iff
    rw [decide_eq_decide, hcustom]

end Component

end ComponentFormat
