import Mathlib.Data.List.Forall2
import Yardstick.Proofs.Session.Work
import Yardstick.Proofs.Store.Listing
import Yardstick.Session.Catalogs

/-!
# Which catalogs are read

The catalogs of a directory are those of its JSON files, in the order of the file names, up to the first
file that holds none. But each file is looked up by its listed path as seen from the base: so a relative
base stands twice before the path, and the files that are read are the listed ones only if the base is
empty or the directory is reached by an absolute path (`Work.readCatalogs_listed_iff`).
-/

namespace Yardstick

/-! ## One file -/

namespace Store

variable {s : Store} {base : Base} {look : Path → Path} {p : Path} {paths : List Path} {c : Catalog}
  {f : Failure}

/-- What is looked up for a path is a file that holds a catalog. One that names no locale is for the
locale that the path is named for. -/
def HoldsCatalog (s : Store) (look : Path → Path) (p : Path) (c : Catalog) : Prop :=
  ∃ ms, s.readObject (look p) = .ok ms ∧ Catalog.ofMembers (withLocale p.stem ms) = .ok c

/-- What is looked up for a path cannot be read as an object, or is an object that is no catalog. -/
def LacksCatalog (s : Store) (look : Path → Path) (p : Path) (f : Failure) : Prop :=
  s.readObject (look p) = .error f ∨
    ∃ ms is, s.readObject (look p) = .ok ms ∧ Catalog.ofMembers (withLocale p.stem ms) = .error is ∧
      f = .invalidCatalog p.text is

/-- Either one catalog for each path, in order, or the failure of the first path that has none. -/
def AreCatalogs (s : Store) (look : Path → Path) (paths : List Path) :
    Except Failure (List Catalog) → Prop
  | .ok cs => List.Forall₂ (s.HoldsCatalog look) paths cs
  | .error f => ∃ before p after cs, paths = before ++ p :: after ∧
      List.Forall₂ (s.HoldsCatalog look) before cs ∧ s.LacksCatalog look p f

theorem holdsCatalog_of_readCatalog (hlook : base.resolve p = look p) (h : s.readCatalog base p = .ok c) :
    s.HoldsCatalog look p c := by
  obtain ⟨ms, hms, hc⟩ := bind_eq_ok.1 h
  exact ⟨ms, hlook ▸ hms, mapError_eq_ok.1 hc⟩

theorem lacksCatalog_of_readCatalog (hlook : base.resolve p = look p)
    (h : s.readCatalog base p = .error f) : s.LacksCatalog look p f := by
  unfold LacksCatalog
  rw [← hlook]
  rcases bind_eq_error.1 h with h | ⟨ms, hms, h⟩
  · exact .inl h
  · cases his : Catalog.ofMembers (withLocale p.stem ms) with
    | ok c => rw [his] at h; cases h
    | error is =>
      rw [his] at h
      exact .inr ⟨ms, is, hms, his, (Except.error.inj h).symm⟩

/-- The files are read one by one, and nothing is read after a failure. -/
theorem areCatalogs_mapM (hlook : ∀ p ∈ paths, base.resolve p = look p) :
    s.AreCatalogs look paths (paths.mapM (s.readCatalog base)) := by
  induction paths with
  | nil => exact List.Forall₂.nil
  | cons p paths ih =>
    have hp := hlook p List.mem_cons_self
    specialize ih fun q hq => hlook q (List.mem_cons_of_mem p hq)
    rw [List.mapM_cons]
    cases hread : s.readCatalog base p with
    | error f => exact ⟨[], p, paths, [], rfl, .nil, lacksCatalog_of_readCatalog hp hread⟩
    | ok c =>
      have hc := holdsCatalog_of_readCatalog hp hread
      cases hpaths : paths.mapM (s.readCatalog base) with
      | ok cs =>
        rw [hpaths] at ih
        exact List.Forall₂.cons hc ih
      | error f =>
        rw [hpaths] at ih
        obtain ⟨before, q, after, cs, rfl, hbefore, hq⟩ := ih
        exact ⟨p :: before, q, after, c :: cs, rfl, .cons hc hbefore, hq⟩

end Store

/-! ## The directory -/

namespace Work

variable {s : Store} {base : Base} {d : Path}

theorem reads_readCatalog (base : Base) (p : Path) :
    (readCatalog base p).Reads (·.readCatalog base p) := by
  have h : (readCatalog base p).Reads fun s => s.readCatalog base p >>= fun c => .ok c :=
    Reads.bind (reads_reading _) fun c => Reads.bind (reads_note _ _ _) fun _ => reads_pure c
  exact (funext fun s : Store => bind_pure (s.readCatalog base p)) ▸ h

theorem reads_readCatalogs (base : Base) (d : Path) : (readCatalogs base d).Reads fun s =>
    s.listJson (base.resolve d) >>= fun paths => paths.mapM (s.readCatalog base) :=
  Reads.bind (reads_reading _) fun paths => reads_mapM (reads_readCatalog base) paths

/-- The catalogs of a directory are those that are looked up for its JSON files as seen from the base. What
is looked up is the listed file itself for all of them exactly if there are none, the base is empty or the
directory absolute; and then the listed files are read, in the order of their names. -/
theorem readCatalogs_listed_iff (h : s.isDirectory (base.resolve d) = true) :
    ∃ paths, s.listJson (base.resolve d) = .ok paths ∧ s.Lists (base.resolve d) paths ∧
      s.AreCatalogs base.resolve paths ((readCatalogs base d).outcome s).1 ∧
      ((∀ p ∈ paths, base.resolve p = p) ↔ paths = [] ∨ base.Settles d) ∧
      (paths = [] ∨ base.Settles d → s.AreCatalogs id paths ((readCatalogs base d).outcome s).1) := by
  obtain ⟨paths, hlist, hlists⟩ := Store.exists_listing h
  have hrun : ((readCatalogs base d).outcome s).1 = paths.mapM (s.readCatalog base) := by
    rw [((reads_readCatalogs base d).outcome s).1, hlist]
    rfl
  have hiff : (∀ p ∈ paths, base.resolve p = p) ↔ paths = [] ∨ base.Settles d := by
    obtain ⟨place, names, -, rfl, -⟩ := hlists
    cases names with
    | nil => simp
    | cons name names => simpa [Base.resolve_child_eq_iff] using fun hsettled _ _ => hsettled
  rw [hrun]
  exact ⟨paths, hlist, hlists, Store.areCatalogs_mapM fun _ _ => rfl, hiff,
    fun hsettled => Store.areCatalogs_mapM (hiff.2 hsettled)⟩

/-- A directory of two catalogs and a file that is none, in a directory for data. -/
def catalogStore : Store where
  nodes :=
    [(⟨false, 0, ["fr.json", "catalogs", "data"]⟩, .file (Text.Utf8.encode "\x7b\"locale\": \"be\"\x7d")),
     (⟨false, 0, ["notes.txt", "catalogs", "data"]⟩, .file (Text.Utf8.encode "-")),
     (⟨false, 0, ["en.json", "catalogs", "data"]⟩, .file (Text.Utf8.encode "\x7b\x7d")),
     (⟨false, 0, ["catalogs", "data"]⟩, .directory),
     (⟨false, 0, ["data"]⟩, .directory)]

theorem listJson_catalogStore : catalogStore.listJson (.ofText "data/catalogs") =
    .ok (["data/catalogs/en.json", "data/catalogs/fr.json"].map .ofText) := by
  have hplace : catalogStore.locate (.ofText "data/catalogs") = .ok ⟨false, 0, ["catalogs", "data"]⟩ := by
    decide +kernel
  have hnames : (catalogStore.children ⟨false, 0, ["catalogs", "data"]⟩).filter
      (fun name => ".json".toList.isSuffixOf name.toList) = ["fr.json", "en.json"] := by
    decide +kernel
  have hsorted : (["fr.json", "en.json"].mergeSort fun a b => !(b < a)) = ["en.json", "fr.json"] :=
    Store.mergeSort_eq_of_perm (List.Perm.swap ..) (by decide +kernel)
  unfold Store.listJson
  rw [hplace]
  show (if _ then Except.ok ((List.mergeSort (List.filter _ _) _).map _) else _) = _
  rw [hnames, hsorted]
  decide +kernel

/-- By the whole path both catalogs are read. -/
theorem readCatalogs_listed_iff_noBase :
    catalogStore.isDirectory (Base.resolve none (.ofText "data/catalogs")) = true ∧
      catalogStore.AreCatalogs id (["data/catalogs/en.json", "data/catalogs/fr.json"].map .ofText)
        ((readCatalogs none (.ofText "data/catalogs")).outcome catalogStore).1 := by
  have hdirectory : catalogStore.isDirectory (Base.resolve none (.ofText "data/catalogs")) = true := by
    decide +kernel
  obtain ⟨paths, hlist, -, -, -, hlisted⟩ := readCatalogs_listed_iff hdirectory
  obtain rfl := Except.ok.inj (hlist.symm.trans listJson_catalogStore)
  exact ⟨hdirectory, hlisted (.inr (.inl rfl))⟩

/-- From the directory for data the same two are listed, and the first is looked up where no file is. -/
theorem readCatalogs_relativeBase :
    let base : Base := some (.ofText "data")
    let paths : List Path := ["data/catalogs/en.json", "data/catalogs/fr.json"].map .ofText
    let result := ((readCatalogs base (.ofText "catalogs")).outcome catalogStore).1
    catalogStore.isDirectory (base.resolve (.ofText "catalogs")) = true ∧
      catalogStore.listJson (base.resolve (.ofText "catalogs")) = .ok paths ∧
      result = .error (.unreadable "data/data/catalogs/en.json"
        (.refused .noEntry "data/data/catalogs/en.json")) ∧
      ¬ catalogStore.AreCatalogs id paths result := by
  intro base paths result
  have hresolve : base.resolve (.ofText "catalogs") = .ofText "data/catalogs" := by decide +kernel
  rw [hresolve]
  have hlooked : catalogStore.readCatalog base (.ofText "data/catalogs/en.json") =
      .error (.unreadable "data/data/catalogs/en.json"
        (.refused .noEntry "data/data/catalogs/en.json")) := by
    decide +kernel
  have hresult : result = .error (.unreadable "data/data/catalogs/en.json"
      (.refused .noEntry "data/data/catalogs/en.json")) := by
    refine ((reads_readCatalogs base (.ofText "catalogs")).outcome catalogStore).1.trans ?_
    rw [hresolve, listJson_catalogStore]
    show List.mapM _ _ = _
    rw [List.map_cons, List.mapM_cons, hlooked]
    rfl
  refine ⟨by decide +kernel, listJson_catalogStore, hresult, ?_⟩
  rw [hresult]
  have hobjects : ∀ p ∈ paths, (catalogStore.readObject p).isOk = true := by decide +kernel
  rintro ⟨before, p, after, cs, hpaths, -, hlacks⟩
  have hp := hobjects p (hpaths ▸ by simp)
  rcases hlacks with hread | ⟨ms, is, -, -, hinvalid⟩
  · rw [show catalogStore.readObject p = _ from hread] at hp
    cases hp
  · cases hinvalid

end Work

end Yardstick
