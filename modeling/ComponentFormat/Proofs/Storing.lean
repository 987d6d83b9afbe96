import ComponentFormat.Proofs.Containment
import ComponentFormat.Proofs.Passes

/-! # Formatting a file

A file is read as a text in UTF-8, formatted as that text, and written back as a whole or not at all. The bytes between
the lines of the edits come back as they were, terminators and a byte order mark included, and no other file is touched
(`Service.formatFile_stored`).
-/
namespace ComponentFormat

namespace FileTree

def utf8 (t : Text) : ByteArray := (String.ofList t).toUTF8

theorem utf8_append (a b : Text) : utf8 (a ++ b) = utf8 a ++ utf8 b := by
  rw [utf8, String.ofList_append]
  exact String.toByteArray_append

theorem decode_eq_ok_iff {content : ByteArray} {t : Text} : decode content = .ok t ↔ content = utf8 t := by
  unfold decode String.fromUTF8?
  by_cases hvalid : content.IsValidUTF8
  · rw [dif_pos hvalid]
    dsimp only
    rw [Except.ok.injEq]
    constructor
    · rintro rfl
      rw [utf8, String.ofList_toList]
      rfl
    · rintro rfl
      exact String.toList_ofList
  · rw [dif_neg hvalid]
    refine iff_of_false nofun ?_
    rintro rfl
    exact hvalid (String.ofList t).isValidUTF8

theorem decode_of_ne {content : ByteArray} (h : ∀ t, content ≠ utf8 t) : decode content = .error .undecodable := by
  unfold decode
  cases hs : String.fromUTF8? content with
  | none => rfl
  | some s =>
    refine absurd (decode_eq_ok_iff.1 ?_) (h s.toList)
    rw [decode, hs]

variable {files files' : FileTree} {p : Path} {place : Place} {t : Text}

/-- The path leads to a file with the text. -/
structure Holds (files : FileTree) (p : Path) (place : Place) (t : Text) : Prop where
  leads : files.locate p = .ok place
  content : files.at? place = some (.file (utf8 t))

/-- There is no text to be read: the path leads nowhere, to a directory, or to bytes that are no text. -/
inductive Unreadable (files : FileTree) (p : Path) : FileError → Prop
  | lost {e : FileError} (hplace : files.locate p = .error e) : Unreadable files p e
  | missing {place : Place} (hplace : files.locate p = .ok place) (h : files.at? place = none) :
      Unreadable files p .notFound
  | directory {place : Place} (hplace : files.locate p = .ok place) (h : files.at? place = some .directory) :
      Unreadable files p .isDirectory
  | binary {place : Place} {content : ByteArray} (hplace : files.locate p = .ok place)
      (h : files.at? place = some (.file content)) (hbytes : ∀ t, content ≠ utf8 t) : Unreadable files p .undecodable

/-- The two trees differ in the content of one file. -/
structure Replaces (files files' : FileTree) (place : Place) (content : ByteArray) : Prop where
  here : files'.at? place = some (.file content)
  elsewhere : ∀ q, q ≠ place → files'.at? q = files.at? q
  paths : ∀ p, files'.locate p = files.locate p

theorem Holds.readText (h : files.Holds p place t) : files.readText p = .ok t := by
  have hcontent : files.contentAt place = .ok (utf8 t) := by
    rw [contentAt, h.content]
  have hread : files.read p = .ok (utf8 t) := bind_eq_ok_iff.2 ⟨place, h.leads, hcontent⟩
  exact bind_eq_ok_iff.2 ⟨utf8 t, hread, decode_eq_ok_iff.2 rfl⟩

theorem Unreadable.readText {e : FileError} (h : files.Unreadable p e) : files.readText p = .error e := by
  unfold FileTree.readText read
  cases h with
  | lost hplace => rw [hplace]; rfl
  | missing hplace h => simp only [hplace, contentAt, h, bind, Except.bind]
  | directory hplace h => simp only [hplace, contentAt, h, bind, Except.bind]
  | binary hplace h hbytes => simp only [hplace, contentAt, h, bind, Except.bind, decode_of_ne hbytes]

theorem holds_or_unreadable (files : FileTree) (p : Path) :
    (∃ place t, files.Holds p place t) ∨ ∃ e, files.Unreadable p e := by
  cases hplace : files.locate p with
  | error e => exact .inr ⟨e, .lost hplace⟩
  | ok place =>
    cases hentry : files.at? place with
    | none => exact .inr ⟨_, .missing hplace hentry⟩
    | some entry =>
      cases entry with
      | directory => exact .inr ⟨_, .directory hplace hentry⟩
      | file content =>
        by_cases htext : ∃ t, content = utf8 t
        · obtain ⟨t, rfl⟩ := htext
          exact .inl ⟨place, t, hplace, hentry⟩
        · exact .inr ⟨_, .binary hplace hentry (not_exists.1 htext)⟩

theorem entry?_put {names : List String} (hnames : names ≠ []) (e : Entry) (q : List String) :
    entry? ⟨Keyed.put names e files.entries⟩ q = if q = names then some e else files.entry? q := by
  unfold entry?
  by_cases hq : q = names
  · subst hq
    rw [if_pos rfl, if_neg (by simpa using hnames), Keyed.get?_put_self]
  · rw [if_neg hq, Keyed.get?_put_of_ne (Ne.symm hq)]

/-- All paths lead where they have led when a file gets another content, since no path goes through a file. -/
theorem walk_congr {names : List String} {content content' : ByteArray}
    (hfile : files.entry? names = some (.file content))
    (h : ∀ q, files'.entry? q = if q = names then some (.file content') else files.entry? q) (start : Place)
    (path : List String) : files'.walk start path = files.walk start path := by
  induction path generalizing start with
  | nil => simp only [walk]
  | cons name more ih =>
    cases start with
    | above levels => simp only [walk, ih]
    | inside place =>
      by_cases hplace : place = names
      · simp only [walk, h, hplace, if_true, hfile]
      · simp only [walk, h, if_neg hplace, ih]

theorem exists_putAt {content : ByteArray} (h : files.at? place = some (.file content)) (content' : ByteArray) :
    ∃ files', files.putAt place content' = .ok files' ∧ files.Replaces files' place content' := by
  cases place with
  | above levels => cases h
  | inside names =>
    have hnames : names ≠ [] := by
      rintro rfl
      cases h
    have hentry : ∀ q, entry? ⟨Keyed.put names (.file content') files.entries⟩ q = _ := entry?_put hnames _
    refine ⟨⟨Keyed.put names (.file content') files.entries⟩, ?_, ?_, ?_, ?_⟩
    · unfold putAt
      rw [h]
    · exact (hentry names).trans (if_pos rfl)
    · rintro (q | levels) hq
      · exact (hentry q).trans (if_neg fun he => hq (congrArg Place.inside he))
      · rfl
    · intro p
      unfold locate follow
      simp only [walk_congr h hentry]

theorem Holds.exists_writeText (h : files.Holds p place t) (t' : Text) :
    ∃ files', files.writeText p t' = .ok files' ∧ files.Replaces files' place (utf8 t') := by
  obtain ⟨files', hput, hreplaces⟩ := exists_putAt h.content (utf8 t')
  exact ⟨files', bind_eq_ok_iff.2 ⟨place, h.leads, hput⟩, hreplaces⟩

theorem Holds.replaces_self (h : files.Holds p place t) : files.Replaces files place (utf8 t) :=
  ⟨h.content, fun _ _ => rfl, fun _ => rfl⟩

end FileTree

namespace Document
open FileTree (utf8)

/-- Behind `front` stand the bytes `old`, and `new` is `old` with the bytes of the lines of each edit replaced by those
of its text. The bytes between the edits stand in both. -/
inductive RewritesBytes (d : Document) : Text → List Edit → ByteArray → ByteArray → Prop
  | rest (front : Text) (bytes : ByteArray) : RewritesBytes d front [] bytes bytes
  | edit {front kept lines : Text} {e : Edit} {more : List Edit} {old new : ByteArray}
      (first : d.lineStart e.span.first = .ok (front ++ kept).length)
      (whole : d.wholeLines e.span.first e.span.last = .ok lines)
      (behind : RewritesBytes d (front ++ kept ++ lines) more old new) :
      RewritesBytes d front (e :: more) (utf8 kept ++ utf8 lines ++ old) (utf8 kept ++ utf8 e.text ++ new)

theorem Rewrites.bytes {d : Document} {edits : List Edit} {front old new : Text}
    (h : d.Rewrites front.length edits old new) (ht : d.text = front ++ old) :
    d.RewritesBytes front edits (utf8 old) (utf8 new) := by
  induction edits generalizing front old new with
  | nil =>
    cases h
    exact .rest front _
  | cons e more ih =>
    obtain ⟨kept, lines, old, new, rfl, rfl, hfirst, hwhole, hrest, ht⟩ := h.exists_step ht
    simp only [FileTree.utf8_append]
    exact .edit hfirst hwhole (ih hrest ht)

theorem applyEdits_ofText (path : String) (t : Text) (edits : List Edit) :
    applyEdits ⟨path, t⟩ edits = (ofText t).applyEdits edits := by
  have hupwards (edits : List Edit) : replaceUpwards ⟨path, t⟩ edits = (ofText t).replaceUpwards edits := by
    induction edits with
    | nil => rfl
    | cons e more ih =>
      rw [replaceUpwards, replaceUpwards, ih]
      rfl
  unfold applyEdits
  simp only [hupwards]

end Document

theorem Extraction.regions_ofText (path : String) (t : Text) :
    (ofDocument ⟨path, t⟩).regions = (ofDocument (.ofText t)).regions := by
  unfold ofDocument
  dsimp only [Document.ofText]
  cases Component.ofText t <;> rfl

/-- What a pass makes of a text does not depend on where the text has been read. -/
theorem Pass.edits_ofText (e : Engines) (o : Options) (path : String) (t : Text) :
    (ofDocument e o ⟨path, t⟩).edits = (ofDocument e o (.ofText t)).edits := by
  unfold ofDocument
  rw [edits_ofDocumentBy, edits_ofDocumentBy, Extraction.regions_ofText]

namespace Service
open FileTree (utf8)
variable (s : Service) (files : FileTree)

/-- The project of a file: the one that is named, or else the directory that the file is in. An empty name is none
(`Resolver.rootOf`). -/
def projectOf (p : Path) (root : Option Path) : Option Path :=
  some (root.getD p.parent)

theorem result_formatDocument (d : Document) (root : Option Path) (settings : Option Settings) :
    (s.formatDocument files d root settings).result =
      (s.resolveOptions files root settings).result.map fun o => (Pass.ofDocument s.engines o d).edits := by
  unfold formatDocument outcomes
  dsimp only
  cases (s.resolveOptions files root settings).result <;> rfl

theorem result_formatText_iff {root : Option Path} {settings : Option Settings} {t : Text} {f : FormattedText} :
    (s.formatText files t root settings).result = .ok f ↔
      (s.formatDocument files (.ofText t) root settings).result = .ok f.edits ∧
        (Document.ofText t).applyEdits f.edits = .ok f.text := by
  obtain ⟨edits, text⟩ := f
  unfold formatText
  simp only [bind_eq_ok_iff, mapError_eq_ok_iff, pure, Except.pure, Except.ok.injEq, FormattedText.mk.injEq]
  constructor
  · rintro ⟨_, hedits, _, htext, rfl, rfl⟩
    exact ⟨hedits, htext⟩
  · rintro ⟨hedits, htext⟩
    exact ⟨edits, hedits, text, htext, rfl, rfl⟩

theorem exists_formatText {root : Option Path} {settings : Option Settings} {o : Options}
    (ho : (s.resolveOptions files root settings).result = .ok o) (t : Text) :
    ∃ f, (s.formatText files t root settings).result = .ok f ∧
      (Document.ofText t).RewritesBytes [] f.edits (utf8 t) (utf8 f.text) := by
  obtain ⟨text, happly, hrewrites⟩ := Pass.exists_rewrites (fun _ => s.engines) o (.ofText t)
  have hedits : (s.formatDocument files (.ofText t) root settings).result =
      .ok (Pass.ofDocument s.engines o (.ofText t)).edits := by
    rw [result_formatDocument, ho]
    rfl
  rw [← List.length_nil] at hrewrites
  exact ⟨⟨_, text⟩, (result_formatText_iff s files).2 ⟨hedits, happly⟩, hrewrites.bytes rfl⟩

section
variable {s files} {p : Path} {place : FileTree.Place} {t : Text} {root : Option Path} (write : Bool)

theorem result_formatDocument_ofText (path : String) (t : Text) (root : Option Path) (settings : Option Settings) :
    (s.formatDocument files ⟨path, t⟩ root settings).result =
      (s.formatDocument files (.ofText t) root settings).result := by
  rw [result_formatDocument, result_formatDocument]
  simp only [Pass.edits_ofText]

theorem formatFile_of_unreadable {e : FileError} (h : files.Unreadable p e) :
    (s.formatFile files p root write).1.result = .error (.file e) ∧ (s.formatFile files p root write).2 = files := by
  unfold formatFile loadDocument
  rw [h.readText]
  exact ⟨rfl, rfl⟩

theorem formatFile_of_unresolved (h : files.Holds p place t) {e : ServiceError}
    (he : (s.resolveOptions files (projectOf p root) none).result = .error e) :
    (s.formatFile files p root write).1.result = .error e ∧ (s.formatFile files p root write).2 = files := by
  have hformat : (s.formatDocument files ⟨p.toString, t⟩ (some (root.getD p.parent)) none).result = .error e := by
    rw [projectOf] at he
    rw [result_formatDocument, he]
    rfl
  unfold formatFile loadDocument
  rw [h.readText]
  dsimp only [Except.map]
  rw [hformat]
  exact ⟨rfl, rfl⟩

theorem formatFile_of_formatted (h : files.Holds p place t) {f : FormattedText}
    (hf : (s.formatText files t (projectOf p root) none).result = .ok f) :
    (s.formatFile files p root write).1.result = .ok ⟨p, f.edits, write && f.changed⟩ ∧
      files.Replaces (s.formatFile files p root write).2 place
        (utf8 (if write && f.changed then f.text else t)) := by
  obtain ⟨hedits, happly⟩ := (result_formatText_iff s files).1 hf
  rw [← result_formatDocument_ofText p.toString] at hedits
  rw [← Document.applyEdits_ofText p.toString] at happly
  obtain ⟨files', hwrite, hreplaces⟩ := h.exists_writeText f.text
  have hstore : store files p ⟨p.toString, t⟩ f.edits = .ok files' :=
    bind_eq_ok_iff.2 ⟨f.text, mapError_eq_ok_iff.2 happly, mapError_eq_ok_iff.2 hwrite⟩
  rw [projectOf] at hedits
  unfold formatFile loadDocument FormattedText.changed
  rw [h.readText]
  dsimp only [Except.map]
  rw [hedits]
  dsimp only
  cases write && !f.edits.isEmpty with
  | false => exact ⟨rfl, h.replaces_self⟩
  | true =>
    rw [if_pos rfl, if_pos rfl, hstore]
    exact ⟨rfl, hreplaces⟩

theorem unreadable_or_unresolved {e : ServiceError} (h : (s.formatFile files p root write).1.result = .error e) :
    (∃ unread, files.Unreadable p unread ∧ e = .file unread) ∨
      (∃ place t, files.Holds p place t) ∧ (s.resolveOptions files (projectOf p root) none).result = .error e := by
  rcases files.holds_or_unreadable p with ⟨place, t, hholds⟩ | ⟨unread, hunread⟩
  · refine .inr ⟨⟨place, t, hholds⟩, ?_⟩
    cases ho : (s.resolveOptions files (projectOf p root) none).result with
    | error e' =>
      have he := (formatFile_of_unresolved write hholds ho).1
      rw [Except.error.inj (he.symm.trans h)]
    | ok o =>
      obtain ⟨f, hf, -⟩ := exists_formatText s files ho t
      have hok := (formatFile_of_formatted write hholds hf).1
      rw [h] at hok
      cases hok
  · have he := h.symm.trans (formatFile_of_unreadable write hunread).1
    exact .inl ⟨unread, hunread, Except.error.inj he⟩

end

/-- A file is formatted as its text is, in the project that is named or else in its own directory. That fails only where
the path leads to no text or where there are no options, and then nothing is changed. Otherwise the edits are those of
the text; with `write`, and if there are edits, the file gets the bytes of the formatted text, in which those between
the lines of the edits are as before, and if not it keeps its own. No other file is changed. -/
theorem formatFile_stored (p : Path) (root : Option Path) (write : Bool) :
    (∀ e, (s.formatFile files p root write).1.result = .error e ↔
      (∃ unread, files.Unreadable p unread ∧ e = .file unread) ∨
        (∃ place t, files.Holds p place t) ∧ (s.resolveOptions files (projectOf p root) none).result = .error e) ∧
    (∀ e, (s.formatFile files p root write).1.result = .error e → (s.formatFile files p root write).2 = files) ∧
    ∀ place t o, files.Holds p place t → (s.resolveOptions files (projectOf p root) none).result = .ok o →
      ∃ f stored, (s.formatText files t (projectOf p root) none).result = .ok f ∧
        (s.formatFile files p root write).1.result = .ok stored ∧ stored.path = p ∧ stored.edits = f.edits ∧
        (stored.changed = true ↔ f.edits ≠ []) ∧ (stored.written = true ↔ write = true ∧ f.edits ≠ []) ∧
        files.Replaces (s.formatFile files p root write).2 place (utf8 (if stored.written then f.text else t)) ∧
        (Document.ofText t).RewritesBytes [] f.edits (utf8 t) (utf8 f.text) := by
  refine ⟨fun e => ⟨unreadable_or_unresolved write, ?_⟩, ?_, ?_⟩
  · rintro (⟨unread, h, rfl⟩ | ⟨⟨place, t, h⟩, he⟩)
    · exact (formatFile_of_unreadable write h).1
    · exact (formatFile_of_unresolved write h he).1
  · intro e h
    rcases unreadable_or_unresolved write h with ⟨unread, h, -⟩ | ⟨⟨place, t, h⟩, he⟩
    · exact (formatFile_of_unreadable write h).2
    · exact (formatFile_of_unresolved write h he).2
  · intro place t o h ho
    obtain ⟨f, hf, hbytes⟩ := exists_formatText s files ho t
    obtain ⟨hresult, hreplaces⟩ := formatFile_of_formatted write h hf
    refine ⟨f, _, hf, hresult, rfl, rfl, ?_, ?_, hreplaces, hbytes⟩
    · simp [FormattedFile.changed]
    · simp [FormattedText.changed]

/-- A page behind a byte order mark, with its template in lines of the given beginnings. -/
def page (indent : String) : Text :=
  ("\uFEFF\r\n<template>\r\n" ++ indent ++ "<p>a</p>\r\n</template>\r\n").toList

def shelf : FileTree := ⟨[(["a.vue"], .file (utf8 (page "")))]⟩

def reindenting : Service := ⟨Reindent.engines, .empty⟩

theorem formatFile_stored_page :
    shelf.Holds (Path.ofString "a.vue") (.inside ["a.vue"]) (page "") ∧
    ∃ stored, (reindenting.formatFile shelf (Path.ofString "a.vue") none true).1.result = .ok stored ∧
      stored.written = true ∧
      (reindenting.formatFile shelf (Path.ofString "a.vue") none true).2.at? (.inside ["a.vue"]) =
        some (.file (utf8 (page "    "))) := by
  have hholds : shelf.Holds (Path.ofString "a.vue") (.inside ["a.vue"]) (page "") :=
    ⟨ok_of_toOption (by decide +kernel), rfl⟩
  have hsome : (reindenting.resolveOptions shelf (projectOf (Path.ofString "a.vue") none) none).result.toOption.isSome =
      true := by decide +kernel
  have htext : (reindenting.formatText shelf (page "") (projectOf (Path.ofString "a.vue") none)
      none).result.toOption.map (fun f => (f.edits.isEmpty, f.text)) = some (false, page "    ") := by decide +kernel
  obtain ⟨o, ho⟩ := Option.isSome_iff_exists.1 hsome
  obtain ⟨f, stored, hf, hstored, -, -, -, hwritten, hreplaces, -⟩ :=
    (formatFile_stored reindenting shelf (Path.ofString "a.vue") none true).2.2 _ _ o hholds (ok_of_toOption ho)
  rw [hf] at htext
  obtain ⟨hempty, hpage⟩ := Prod.mk.inj (Option.some.inj htext)
  have hdone : stored.written = true := hwritten.2 ⟨rfl, by simpa using hempty⟩
  refine ⟨hholds, stored, hstored, hdone, ?_⟩
  rw [hreplaces.here, if_pos hdone, ← hpage]

end Service

end ComponentFormat
