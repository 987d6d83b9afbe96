import ComponentFormat.Proofs.Regions

/-! # What the regions of a document say about it

Every template, script and style of a component is a candidate. The regions are a selection of the candidates that
ascends, shares no line and loses nothing that does not share a line with a kept one; each region is the exact text
of its lines with its content at its offsets. Nothing on the way fails, whatever the document is
(`Extraction.build_eq`).
-/
namespace ComponentFormat

def Slot.kind? : Slot → Option RegionKind
  | .single .template => some .markup
  | .single .script => some .script
  | .single .scriptSetup => some .scriptSetup
  | .style => some .style
  | .custom => none

namespace Component

/-- The blocks to format with the kinds of their regions, kind by kind. -/
def formattable (c : Component) : List (RegionKind × Placed) :=
  (c.inSlot (.single .template)).map (RegionKind.markup, ·) ++
    (c.inSlot (.single .script)).map (RegionKind.script, ·) ++
    (c.inSlot (.single .scriptSetup)).map (RegionKind.scriptSetup, ·) ++
    c.styles.map (RegionKind.style, ·)

theorem candidates_eq (d : Document) (c : Component) :
    Region.candidates d c = c.formattable.map fun q => Region.ofBlock d q.1 q.2 := by
  simp [Region.candidates, formattable, Function.comp_def]

theorem mem_inSlot {c : Component} {slot : Slot} {p : Placed} :
    p ∈ c.inSlot slot ↔ p ∈ c.blocks ∧ p.block.slot = slot := by
  simp [inSlot]

theorem mem_formattable {c : Component} {kind : RegionKind} {p : Placed} :
    (kind, p) ∈ c.formattable ↔ p ∈ c.blocks ∧ p.block.slot.kind? = some kind := by
  simp only [formattable, styles, List.mem_append, List.mem_map, mem_inSlot, Prod.mk.injEq]
  constructor
  · rintro (((⟨q, ⟨hq, hs⟩, rfl, rfl⟩ | ⟨q, ⟨hq, hs⟩, rfl, rfl⟩) | ⟨q, ⟨hq, hs⟩, rfl, rfl⟩) |
      ⟨q, ⟨hq, hs⟩, rfl, rfl⟩) <;> exact ⟨hq, by rw [hs]; rfl⟩
  · rintro ⟨hp, hk⟩
    cases hs : p.block.slot with
    | single s => cases s <;> rw [hs] at hk <;> cases hk <;> simp [hp, hs]
    | style => rw [hs] at hk; cases hk; simp [hp, hs]
    | custom => rw [hs] at hk; cases hk

theorem length_le_of_firstRepeat? {taken : List Singleton} {blocks : List Placed}
    (h : Placed.firstRepeat? taken blocks = none) (k : Singleton) :
    (blocks.filter (·.block.slot = .single k)).length + (if k ∈ taken then 1 else 0) ≤ 1 := by
  fun_induction Placed.firstRepeat? taken blocks with
  | case1 => simp; split <;> simp
  | case2 => cases h
  | case3 taken p more kind hs hk ih =>
    have hk : kind ∉ taken := by simpa using hk
    have := ih h
    by_cases he : kind = k
    · subst he
      simp_all
    · have he' : ¬k = kind := fun h => he h.symm
      simp_all
  | case4 taken p more hs ih =>
    have hne : p.block.slot ≠ .single k := hs k
    simpa [hne] using ih h

theorem length_inSlot_single_le {t : Text} {c : Component} (h : ofText t = .ok c) (k : Singleton) :
    (c.inSlot (.single k)).length ≤ 1 := by
  have := length_le_of_firstRepeat? (ofText_eq_ok h).2.2 k
  simpa [inSlot] using this

theorem count_kind_le {t : Text} {c : Component} (h : ofText t = .ok c) {kind : RegionKind}
    (hk : kind ≠ .style) : (c.formattable.map Prod.fst).count kind ≤ 1 := by
  have htemplate := length_inSlot_single_le h .template
  have hscript := length_inSlot_single_le h .script
  have hsetup := length_inSlot_single_le h .scriptSetup
  simp only [formattable, List.map_append, List.map_map, Function.comp_def, List.count_append,
    List.map_const', List.count_replicate]
  cases kind <;> simp_all

end Component

theorem Sorted.ofList_map {α β : Type} (f : α → β) (key : β → Nat) (items : List α) :
    Sorted.ofList key (items.map f) = (Sorted.ofList (fun a => key (f a)) items).map f := by
  have insert_map (a : α) (more : List α) : Sorted.insert key (f a) (more.map f) =
      (Sorted.insert (fun a => key (f a)) a more).map f := by
    induction more with
    | nil => rfl
    | cons b more ih => by_cases h : key (f a) ≤ key (f b) <;> simp [Sorted.insert, h, ih]
  induction items with
  | nil => rfl
  | cons a more ih => rw [List.map_cons, Sorted.ofList, ih, insert_map, Sorted.ofList]

namespace Extraction
variable {d : Document} {c : Component}

def queue (d : Document) (c : Component) : List (RegionKind × Placed) :=
  Sorted.ofList (fun q => (Region.ofBlock d q.1 q.2).span.first) c.formattable

def kept (d : Document) (c : Component) : List (RegionKind × Placed) :=
  Selection.apart (fun q => (Region.ofBlock d q.1 q.2).span) none (queue d c)

theorem regions_ofDocument (h : Component.ofText d.text = .ok c) :
    (ofDocument d).regions = (kept d c).map fun q => Region.ofBlock d q.1 q.2 := by
  simp only [ofDocument, h, Region.inOrder, Component.candidates_eq, Sorted.ofList_map, Selection.regions_keepApart]
  exact Selection.apart_map Region.span _ none _

theorem regions_of_error {e : ParseError} (h : Component.ofText d.text = .error e) :
    (ofDocument d).regions = [] := by
  simp only [ofDocument, h]

theorem mem_queue {q : RegionKind × Placed} : q ∈ queue d c ↔ q ∈ c.formattable :=
  (Sorted.perm_ofList _ _).mem_iff

theorem mem_of_mem_kept {q : RegionKind × Placed} (h : q ∈ kept d c) : q ∈ c.formattable :=
  mem_queue.1 ((Selection.apart_sublist ..).subset h)

theorem exists_of_mem_regions {r : Region} (hr : r ∈ (ofDocument d).regions) :
    ∃ c p x y, Component.ofText d.text = .ok c ∧ (r.kind, p) ∈ kept d c ∧ p.Sits x y d.text ∧
      r = Region.ofBlock d r.kind p := by
  cases hc : Component.ofText d.text with
  | error e => simp [regions_of_error hc] at hr
  | ok c =>
    rw [regions_ofDocument hc] at hr
    obtain ⟨⟨kind, p⟩, hq, rfl⟩ := List.mem_map.1 hr
    obtain ⟨x, y, hs⟩ := Component.sits_of_mem hc (Component.mem_formattable.1 (mem_of_mem_kept hq)).1
    exact ⟨c, p, x, y, rfl, hq, hs, rfl⟩

theorem pairwise_regions (d : Document) :
    (ofDocument d).regions.Pairwise fun a b => a.span.last < b.span.first := by
  cases hc : Component.ofText d.text with
  | error e => simp [regions_of_error hc]
  | ok c =>
    rw [regions_ofDocument hc, List.pairwise_map]
    exact (Selection.pairwise_apart _ (Sorted.pairwise_ofList _ _) (by simp)).2

theorem count_kind_le (d : Document) {kind : RegionKind} (hk : kind ≠ .style) :
    ((ofDocument d).regions.map Region.kind).count kind ≤ 1 := by
  cases hc : Component.ofText d.text with
  | error e => simp [regions_of_error hc]
  | ok c =>
    have hsub := ((Selection.apart_sublist (fun q => (Region.ofBlock d q.1 q.2).span) none
      (queue d c)).map Prod.fst).count_le kind
    have hperm : (queue d c).Perm c.formattable := Sorted.perm_ofList ..
    rw [(hperm.map Prod.fst).count_eq kind] at hsub
    rw [regions_ofDocument hc, List.map_map]
    exact Nat.le_trans hsub (Component.count_kind_le hc hk)

theorem mem_or_overlaps (hc : Component.ofText d.text = .ok c) {kind : RegionKind} {p : Placed}
    (hp : (kind, p) ∈ c.formattable) :
    Region.ofBlock d kind p ∈ (ofDocument d).regions ∨
      ∃ k ∈ (ofDocument d).regions, k.span.overlaps (Region.ofBlock d kind p).span = true := by
  rw [regions_ofDocument hc]
  rcases @Selection.mem_apart_or_overlaps _ (fun q => (Region.ofBlock d q.1 q.2).span) none _ _
    (mem_queue.2 hp) with h | ⟨k, hk, ho⟩
  · exact .inl (List.mem_map.2 ⟨_, h, rfl⟩)
  · rcases hk with hk | hk
    · cases hk
    · exact .inr ⟨_, List.mem_map.2 ⟨k, hk, rfl⟩, ho⟩

/-- The regions of a document with every step that may fail. -/
def build (d : Document) : Except RegionError Extraction :=
  match Component.ofText d.text with
  | .error e => .ok ⟨[], [.unparsable d.label e]⟩
  | .ok c => do
    let candidates ← c.formattable.mapM fun q => Region.build d q.1 q.2
    return keepApart none (Region.inOrder candidates)

theorem build_eq (d : Document) : build d = .ok (ofDocument d) := by
  cases hc : Component.ofText d.text with
  | error e => simp only [build, ofDocument, hc]
  | ok c =>
    have hmap : ∀ items : List (RegionKind × Placed), (∀ q ∈ items, q ∈ c.formattable) →
        items.mapM (fun q => Region.build d q.1 q.2) =
          .ok (items.map fun q => Region.ofBlock d q.1 q.2) := by
      intro items hall
      induction items with
      | nil => rfl
      | cons q more ih =>
        obtain ⟨hq, hmore⟩ := List.forall_mem_cons.1 hall
        obtain ⟨x, y, hs⟩ := Component.sits_of_mem hc (Component.mem_formattable.1 hq).1
        rw [List.mapM_cons, Region.build_eq q.1 hs, ih hmore]
        rfl
    simp only [build, hc, hmap _ fun _ hq => hq, bind, Except.bind, ofDocument, Component.candidates_eq]
    rfl

end Extraction

/-- What a region says about its document holds. -/
structure Region.Sound (d : Document) (r : Region) : Prop where
  inside : r.span.last < d.lineCount
  full : d.wholeLines r.span.first r.span.last = .ok r.full
  content : ∃ start stop : Nat, r.contentStart = some (start : Int) ∧ r.contentEnd = some (stop : Int) ∧
    start ≤ stop ∧ stop ≤ r.full.length ∧ Text.slice r.full start stop = r.content
  splices : ∀ formatted, ∃ t, r.splice formatted = .ok t
  terminator : r.terminator = d.terminator.text

theorem Region.sound_ofBlock {d : Document} {p : Placed} {x y : Text} (kind : RegionKind)
    (h : p.Sits x y d.text) : (Region.ofBlock d kind p).Sound d := by
  have hf := Region.ofBlock_frames kind h
  refine ⟨?_, Region.wholeLines_span kind h, ?_, fun formatted => ⟨_, hf.splice_eq formatted⟩, rfl⟩
  · have hcount := Text.breaks_append (Region.seam_behind h)
    rw [← h.text, Text.breaks_append (Region.seam_source h)] at hcount
    rw [Region.ofBlock_last kind h, Document.lineCount_eq]
    omega
  · exact ⟨_, _, hf.start, hf.stop, hf.length_le.1, hf.length_le.2, hf.slice_content⟩

/-- Extraction never fails. Its regions ascend and share no line, each tells the truth about the document, only
styles come more than once, and every template, script or style of the component is a region or shares a line with
one. -/
theorem Extraction.regions_faithful (d : Document) :
    Extraction.build d = .ok (Extraction.ofDocument d) ∧
    ((Extraction.ofDocument d).regions.Pairwise fun a b => a.span.last < b.span.first) ∧
    (∀ r ∈ (Extraction.ofDocument d).regions, r.Sound d) ∧
    (∀ kind ≠ .style, ((Extraction.ofDocument d).regions.map Region.kind).count kind ≤ 1) ∧
    (∀ r ∈ (Extraction.ofDocument d).regions, ∃ c, Component.ofText d.text = .ok c ∧
      ∃ p ∈ c.blocks, p.block.slot.kind? = some r.kind ∧ r = Region.ofBlock d r.kind p) ∧
    ∀ c, Component.ofText d.text = .ok c → ∀ p ∈ c.blocks, ∀ kind, p.block.slot.kind? = some kind →
      Region.ofBlock d kind p ∈ (Extraction.ofDocument d).regions ∨
        ∃ k ∈ (Extraction.ofDocument d).regions,
          k.span.overlaps (Region.ofBlock d kind p).span = true := by
  refine ⟨build_eq d, pairwise_regions d, fun r hr => ?_, fun kind hk => count_kind_le d hk, fun r hr => ?_,
    fun c hc p hp kind hk => mem_or_overlaps hc (Component.mem_formattable.2 ⟨hp, hk⟩)⟩
  · obtain ⟨c, p, x, y, -, -, hs, he⟩ := exists_of_mem_regions hr
    rw [he]
    exact Region.sound_ofBlock r.kind hs
  · obtain ⟨c, p, x, y, hc, hq, -, he⟩ := exists_of_mem_regions hr
    obtain ⟨hp, hk⟩ := Component.mem_formattable.1 (mem_of_mem_kept hq)
    exact ⟨c, hc, p, hp, hk, he⟩

end ComponentFormat
