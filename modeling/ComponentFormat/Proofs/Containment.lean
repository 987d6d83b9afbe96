import ComponentFormat.Engine.Reindent
import ComponentFormat.Formatting.Service

/-! # What a configuration can stop

A configuration file that cannot be read, is not well formed or is no mapping counts as absent, and nothing of it is
left in the options. Three things do stop a pass: a path that is too long to look up, a scalar that is written like a
number or a date and is none, and a number for a key that is too long to be written out
(`Service.resolveOptions_contained`).
-/
namespace ComponentFormat

namespace FileTree
variable {t : FileTree} {p : Path}

theorem isFile_of_read {content : ByteArray} (h : t.read p = .ok content) : t.isFile p = .ok true := by
  simp only [isFile, h]

theorem isFile_of_error {e : FileError} (h : t.read p = .error e) (he : e ≠ .tooLong) : t.isFile p = .ok false := by
  unfold isFile
  rw [h]
  cases e <;> first | rfl | exact absurd rfl he

theorem readText_of_error {e : FileError} (h : t.read p = .error e) : t.readText p = .error e := by
  simp only [readText, h, bind, Except.bind]

end FileTree

namespace Resolver
variable {r : Resolver} {files : FileTree}

def configText? (r : Resolver) (files : FileTree) : Option Text :=
  r.configPath?.bind fun path => (files.readText path).toOption

/-- What a configuration text says; none when it is malformed or no mapping. -/
def mapping? (t : Text) : Option Layer :=
  match Yaml.load (Text.withTerminator ['\n'] t) with
  | .ok (.scalar .null) => some []
  | .ok (.map entries) => some entries
  | _ => none

def mappingOf? (r : Resolver) (files : FileTree) : Option Layer :=
  (r.configText? files).bind mapping?

/-- The settings of the project; those of a file that cannot be used are none. -/
def project (r : Resolver) (files : FileTree) : Layer :=
  (r.mappingOf? files).getD []

/-- The configuration file can be looked for, and no scalar in it stops its reader. -/
structure Loadable (r : Resolver) (files : FileTree) : Prop where
  reached : ∀ path ∈ r.configPath?, files.read path ≠ .error .tooLong
  converted : ∀ t ∈ r.configText? files, ∀ u, Yaml.load (Text.withTerminator ['\n'] t) ≠ .error (.unconvertible u)

def Written (r : Resolver) (project : Layer) : Prop :=
  ∀ p ∈ r.codeLayer project ++ r.settings.html, p.1.hasText = true

/-- What comes of looking for a configuration: the settings of the project, a report on a file without any, or
nothing at all. -/
inductive Loads (r : Resolver) (files : FileTree) : Except LoadError Layer → Prop where
  | found (loadable : r.Loadable files) : Loads r files (.ok (r.project files))
  | ignored (loadable : r.Loadable files) (unused : r.project files = []) (e : ConfigError) :
    Loads r files (.error (.config e))
  | stopped (unloadable : ¬r.Loadable files) (e : ResolveError) : Loads r files (.error (.fatal e))

theorem loadable_of_no_text (hreach : ∀ path ∈ r.configPath?, files.read path ≠ .error .tooLong)
    (hnone : r.configText? files = none) : r.Loadable files ∧ r.project files = [] := by
  refine ⟨⟨hreach, ?_⟩, ?_⟩
  · simp [hnone]
  · simp [project, mappingOf?, hnone]

theorem loads_parseConfig (hreach : ∀ path ∈ r.configPath?, files.read path ≠ .error .tooLong) {t : Text}
    (ht : r.configText? files = some t) (path : String) : r.Loads files (parseConfig path t) := by
  have hproject : r.project files = (mapping? t).getD [] := by simp [project, mappingOf?, ht]
  have hloadable (h : ∀ u, Yaml.load (Text.withTerminator ['\n'] t) ≠ .error (.unconvertible u)) :
      r.Loadable files := ⟨hreach, by simpa [ht] using h⟩
  unfold mapping? at hproject
  unfold parseConfig
  rcases hload : Yaml.load (Text.withTerminator ['\n'] t) with (_ | u) | v
  · exact .ignored (hloadable (by simp [hload])) (by simp [hproject, hload]) _
  · exact .stopped (fun h => h.converted t ht u hload) _
  · have hl := hloadable (by simp [hload])
    rcases v with (_ | _ | _ | _ | _ | _ | _) | _ | entries
    case scalar.null =>
      have := Loads.found hl
      rwa [hproject, hload] at this
    case map =>
      have := Loads.found hl
      rwa [hproject, hload] at this
    all_goals exact .ignored hl (by simp [hproject, hload]) _

theorem loads_loadConfig (r : Resolver) (files : FileTree) : r.Loads files (r.loadConfig files) := by
  unfold loadConfig
  cases hpath : r.configPath? with
  | none =>
    have hreach : ∀ path ∈ r.configPath?, files.read path ≠ .error .tooLong := by simp [hpath]
    obtain ⟨hl, hnone⟩ := loadable_of_no_text hreach (by simp [configText?, hpath])
    exact hnone ▸ .found hl
  | some path =>
    dsimp only
    rcases hread : files.read path with e | content
    · by_cases he : e = .tooLong
      · rw [FileTree.isFile, hread, he]
        exact .stopped (fun h => h.reached path hpath (he ▸ hread)) _
      · have hnone : r.configText? files = none := by
          simp [configText?, hpath, FileTree.readText_of_error hread, Except.toOption]
        obtain ⟨hl, hproject⟩ := loadable_of_no_text (by simpa [hpath, hread] using he) hnone
        rw [FileTree.isFile_of_error hread he]
        exact hproject ▸ .found hl
    · have hreach : ∀ path ∈ r.configPath?, files.read path ≠ .error .tooLong := by simp [hpath, hread]
      rw [FileTree.isFile_of_read hread]
      dsimp only
      cases ht : files.readText path with
      | error e =>
        have hnone : r.configText? files = none := by simp [configText?, hpath, ht, Except.toOption]
        obtain ⟨hl, hproject⟩ := loadable_of_no_text hreach hnone
        exact .ignored hl hproject _
      | ok t => exact loads_parseConfig hreach (by simp [configText?, hpath, ht, Except.toOption]) _

theorem resolve_of_loadable (h : r.Loadable files) :
    ∃ notices, r.resolve files = r.finish (r.project files) notices := by
  have hload := r.loads_loadConfig files
  unfold resolve
  generalize r.loadConfig files = loaded at hload
  cases hload with
  | found => exact ⟨[], rfl⟩
  | ignored _ hnone e => exact ⟨[.configIgnored e], by rw [hnone]⟩
  | stopped hn => exact absurd h hn

theorem resolve_of_not_loadable (h : ¬r.Loadable files) : ∃ e, r.resolve files = .error e := by
  have hload := r.loads_loadConfig files
  unfold resolve
  generalize r.loadConfig files = loaded at hload
  cases hload with
  | found hl => exact absurd hl h
  | ignored hl => exact absurd hl h
  | stopped _ e => exact ⟨e, rfl⟩

theorem options_finish (project : Layer) (notices : List Notice) :
    (r.finish project notices).map Resolved.options = (r.finish project []).map Resolved.options := by
  unfold finish
  split <;> rfl

end Resolver

namespace Settings

theorem decodeValue_eq_ok_iff {raw : Text} {v : Value} : decodeValue raw = .ok v ↔
    Yaml.load raw = .ok v ∨ Yaml.load raw = .error .malformed ∧ v = .ofString (String.ofList raw) := by
  unfold decodeValue
  rcases Yaml.load raw with (_ | u) | w <;> simp [eq_comm]

end Settings

namespace Service
variable (s : Service) (files : FileTree) (root : Option Path) (settings : Option Settings)

theorem result_resolveOptions : (s.resolveOptions files root settings).result =
    (((s.resolver root settings).resolve files).map Resolved.options).mapError .ofResolve := by
  unfold resolveOptions
  cases (s.resolver root settings).resolve files <;> rfl

/-- Options come of every configuration but one that stops its reader or has a key without a text. -/
theorem result_resolveOptions_iff {o : Options} :
    (s.resolveOptions files root settings).result = .ok o ↔
      (s.resolver root settings).Loadable files ∧
      (s.resolver root settings).Written ((s.resolver root settings).project files) ∧
      o = ((s.resolver root settings).build ((s.resolver root settings).project files) []).options := by
  unfold resolveOptions
  generalize s.resolver root settings = r
  by_cases hl : r.Loadable files
  · obtain ⟨notices, h⟩ := Resolver.resolve_of_loadable hl
    rw [h, Resolver.finish_eq]
    by_cases hw : r.Written (r.project files)
    · rw [if_pos (List.all_eq_true.2 hw), and_iff_right hl, and_iff_right hw]
      exact (Except.ok.injEq ..).to_iff.trans eq_comm
    · rw [if_neg (mt List.all_eq_true.1 hw)]
      exact iff_of_false nofun (hw ·.2.1)
  · obtain ⟨e, h⟩ := Resolver.resolve_of_not_loadable hl
    rw [h]
    exact iff_of_false nofun (hl ·.1)

/-- A file without settings that can be used leaves no trace in the result. -/
theorem result_resolveOptions_of_unused (hl : (s.resolver root settings).Loadable files)
    (hnone : (s.resolver root settings).mappingOf? files = none) :
    (s.resolveOptions files root settings).result = (s.resolveOptions files none settings).result := by
  have hproject : (s.resolver root settings).project files = [] := by rw [Resolver.project, hnone, Option.getD_none]
  obtain ⟨notices, h⟩ := Resolver.resolve_of_loadable hl
  have hrootless : (s.resolver none settings).resolve files = (s.resolver root settings).finish [] [] := rfl
  rw [result_resolveOptions, result_resolveOptions, h, hrootless, hproject, Resolver.options_finish]

/-- A configuration fails a pass in three ways only: its file cannot be looked for, one of its scalars cannot be
converted, or a key cannot be written out. Otherwise the options are those of the project's settings, and a file that
cannot be read, is malformed or is no mapping gives the result of no file at all. A value is refused on its own only
for a scalar that cannot be converted. -/
theorem resolveOptions_contained :
    (∀ o, (s.resolveOptions files root settings).result = .ok o ↔
      (s.resolver root settings).Loadable files ∧
      (s.resolver root settings).Written ((s.resolver root settings).project files) ∧
      o = ((s.resolver root settings).build ((s.resolver root settings).project files) []).options) ∧
    ((s.resolver root settings).Loadable files → (s.resolver root settings).mappingOf? files = none →
      (s.resolveOptions files root settings).result = (s.resolveOptions files none settings).result) ∧
    ∀ raw v, Settings.decodeValue raw = .ok v ↔
      Yaml.load raw = .ok v ∨ Yaml.load raw = .error .malformed ∧ v = .ofString (String.ofList raw) :=
  ⟨fun _ => result_resolveOptions_iff s files root settings, result_resolveOptions_of_unused s files root settings,
    fun _ _ => Settings.decodeValue_eq_ok_iff⟩

def thirteenthMonth : FileTree := ⟨[([".prettierrc"], .file "a: 2024-13-01".toUTF8)]⟩

/-- A date that does not exist stops a pass, and a value. -/
theorem resolveOptions_thirteenthMonth :
    ¬(∃ o, ((⟨Reindent.engines, .empty⟩ : Service).resolveOptions thirteenthMonth (some (Path.ofString "."))
      none).result = .ok o) ∧
    ¬∃ v, Settings.decodeValue "2024-13-01".toList = .ok v := by
  have hpass : ((⟨Reindent.engines, .empty⟩ : Service).resolveOptions thirteenthMonth
      (some (Path.ofString ".")) none).result.toOption.isNone = true := by decide +kernel
  have hvalue : (Settings.decodeValue "2024-13-01".toList).toOption.isNone = true := by decide +kernel
  constructor
  · rintro ⟨o, h⟩
    rw [h] at hpass
    cases hpass
  · rintro ⟨v, h⟩
    rw [h] at hvalue
    cases hvalue

end Service

end ComponentFormat
