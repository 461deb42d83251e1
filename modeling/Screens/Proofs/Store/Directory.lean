import Mathlib.Data.List.Nodup
import Screens.Proofs.Disk.Tree
import Screens.Proofs.Keyed.Order
import Screens.Store.Directory

/-! The files of templates.

The parts of a key stand in the name of its file with dots between them. No plain part has a dot
in it, so the name is cut at the dots into the parts again (`fileName?_inj`), and two keys never
share a file. No plain part has a slash in it either, so the file is an entry of the directory
itself, in whatever file system (`FileSystem.at?_join`).

Listing goes the other way: `stem?` finds the id in a name exactly if the standard template of
the id has a file of this name (`stem?_eq_some`). -/
namespace Screens

/-- The parts of a key that its file is called by. -/
def TemplateKey.segments (key : TemplateKey) : List String := key.screenId :: key.variant.toList

namespace TemplateDirectory

/-- An ASCII letter or digit, a hyphen or an underscore. -/
def PlainChar (c : Char) : Prop :=
  ('a' ≤ c ∧ c ≤ 'z') ∨ ('A' ≤ c ∧ c ≤ 'Z') ∨ ('0' ≤ c ∧ c ≤ '9') ∨ c = '-' ∨ c = '_'

instance (c : Char) : Decidable (PlainChar c) := inferInstanceAs (Decidable (_ ∨ _))

structure Plain (segment : String) : Prop where
  nonempty : segment ≠ ""
  chars : ∀ c ∈ segment.toList, PlainChar c

theorem isAlphanum_iff {c : Char} : c.isAlphanum = true ↔
    (('A' ≤ c ∧ c ≤ 'Z') ∨ ('a' ≤ c ∧ c ≤ 'z')) ∨ ('0' ≤ c ∧ c ≤ '9') := by
  have hupper : c.isUpper = true ↔ 'A' ≤ c ∧ c ≤ 'Z' := decide_eq_true_iff
  have hlower : c.isLower = true ↔ 'a' ≤ c ∧ c ≤ 'z' :=
    Bool.and_eq_true_iff.trans (and_congr decide_eq_true_iff decide_eq_true_iff)
  have hdigit : c.isDigit = true ↔ '0' ≤ c ∧ c ≤ '9' :=
    Bool.and_eq_true_iff.trans (and_congr decide_eq_true_iff decide_eq_true_iff)
  rw [← hupper, ← hlower, ← hdigit, ← Bool.or_eq_true, ← Bool.or_eq_true]
  rfl

theorem isSafe_iff {segment : String} : isSafe segment = true ↔ Plain segment := by
  have hchar (c : Char) : (c.isAlphanum || c == '-' || c == '_') = true ↔ PlainChar c := by
    rw [Bool.or_eq_true, Bool.or_eq_true, isAlphanum_iff, beq_iff_eq, beq_iff_eq, PlainChar]
    tauto
  have hempty : segment.isEmpty = false ↔ segment ≠ "" := by simp
  simp only [isSafe, Bool.and_eq_true, Bool.not_eq_true', List.all_eq_true, hchar, hempty]
  exact ⟨fun h => ⟨h.1, h.2⟩, fun h => ⟨h.nonempty, h.chars⟩⟩

variable {key other : TemplateKey} {name segment : String}

/-- The name of a file is made of the parts of the key and `json`, with dots between them. -/
theorem fileName?_eq_some : fileName? key = some name ↔ (∀ segment ∈ key.segments, Plain segment) ∧
    (String.singleton '.').intercalate (key.segments ++ ["json"]) = name := by
  have hjson : ".json" = "." ++ "json" := rfl
  obtain ⟨screenId, variant⟩ := key
  cases variant with
  | none => simp [fileName?, TemplateKey.segments, ← isSafe_iff, hjson, String.append_assoc]
  | some variant =>
    simp [fileName?, TemplateKey.segments, ← isSafe_iff, hjson, String.append_assoc]

/-- No dot is in any part, so the parts are read back from between the dots. -/
theorem fileName?_inj (h : fileName? key = some name) (hother : fileName? other = some name) :
    key = other := by
  have hparts {key : TemplateKey} (h : fileName? key = some name) :
      name.splitOn (String.singleton '.') = key.segments ++ ["json"] := by
    obtain ⟨hplain, rfl⟩ := fileName?_eq_some.1 h
    apply TextSplit.splitOn_intercalate (by simp)
    intro part hpart
    rcases List.mem_append.1 hpart with hsegment | hjson
    · intro hdot
      exact absurd ((hplain part hsegment).chars _ hdot) (by decide)
    · rw [List.mem_singleton.1 hjson]
      decide
  have hsegments : key.segments = other.segments := by
    simpa using (hparts h).symm.trans (hparts hother)
  obtain ⟨screenId, variant⟩ := key
  obtain ⟨otherId, otherVariant⟩ := other
  simp only [TemplateKey.segments, List.cons.injEq] at hsegments
  obtain ⟨rfl, hvariant⟩ := hsegments
  cases variant <;> cases otherVariant <;> simp_all

theorem fileName?_standard : fileName? (.standard segment) = some name ↔
    Plain segment ∧ segment ++ ".json" = name := by
  rw [fileName?, TemplateKey.standard, ← isSafe_iff]
  simp only [Option.ite_none_right_eq_some, Option.some.injEq]

/-- The id of a standard template is what comes before the ending. -/
theorem stem?_eq_some : stem? name = some segment ↔ fileName? (.standard segment) = some name := by
  rw [fileName?_standard, ← isSafe_iff]
  constructor
  · intro h
    simp only [stem?, Option.ite_none_right_eq_some, Option.some.injEq] at h
    obtain ⟨⟨hending, hsafe⟩, rfl⟩ := h
    refine ⟨hsafe, String.toList_injective ?_⟩
    rw [String.toList_append, String.toList_ofList, ← hending, List.take_append_drop]
  · rintro ⟨hsafe, rfl⟩
    have hlength : (segment ++ ".json").toList.length - 5 = segment.toList.length := by simp
    have htake : (segment ++ ".json").toList.take segment.toList.length = segment.toList := by simp
    have hdrop : (segment ++ ".json").toList.drop segment.toList.length = ".json".toList := by simp
    rw [stem?, hlength, htake, hdrop, String.ofList_toList, if_pos ⟨rfl, hsafe⟩]

theorem plainChar_of_mem (h : fileName? key = some name) {c : Char} (hc : c ∈ name.toList) :
    c = '.' ∨ PlainChar c := by
  obtain ⟨hplain, rfl⟩ := fileName?_eq_some.1 h
  have hmem : c = '.' ∨ ∃ part ∈ key.segments ++ ["json"], c ∈ part.toList := by
    obtain ⟨screenId, variant⟩ := key
    cases variant <;> simp [TemplateKey.segments] at hc ⊢ <;> tauto
  rcases hmem with rfl | ⟨part, hpart, hc⟩
  · exact .inl rfl
  · rcases List.mem_append.1 hpart with hsegment | hjson
    · exact .inr ((hplain part hsegment).chars c hc)
    · obtain rfl := List.mem_singleton.1 hjson
      have hjsonPlain : ∀ c ∈ "json".toList, PlainChar c := by simp [PlainChar]
      exact .inr (hjsonPlain c hc)

theorem endsWith_json (h : fileName? key = some name) : name.endsWith ".json" = true := by
  obtain ⟨-, rfl⟩ := fileName?_eq_some.1 h
  rw [TextSplit.endsWith_iff]
  obtain ⟨screenId, variant⟩ := key
  cases variant with
  | none => exact ⟨screenId, by simp [TemplateKey.segments, ← String.toList_inj]⟩
  | some variant =>
    exact ⟨screenId ++ "." ++ variant, by simp [TemplateKey.segments, ← String.toList_inj]⟩

/-- The file of a template is called by one name, which ends in `.json`. -/
theorem isName_of_fileName? (h : fileName? key = some name) : FileSystem.IsName name := by
  have hnot (c : Char) (hdot : c ≠ '.') (hc : ¬ PlainChar c) : c ∉ name.toList := fun hmem =>
    (plainChar_of_mem h hmem).elim hdot hc
  have hends := endsWith_json h
  refine ⟨?_, ?_, ?_, hnot '/' (by decide) (by decide), hnot _ (by decide) (by decide)⟩
  all_goals
    rintro rfl
    revert hends
    decide

/-! ### Listing -/

/-- The ids are listed of a directory with these names in it. -/
structure Lists (d : TemplateDirectory) (names ids : List String) : Prop where
  sorted : ids.Pairwise fun a b => TextOrder.before a b = true
  nodup : ids.Nodup
  complete : ∀ id, id ∈ ids ↔ ∃ name ∈ names, d.path? (.standard id) = some (Disk.join d.root name)
  /-- No id is found in two entries, so the ids are just what is found in the names. -/
  collected : names.Nodup → ids.Perm (names.filterMap stem?)
  /-- No name of a variant is taken for that of a standard template. -/
  standard : ∀ id ∈ ids, Plain id ∧ ∀ key, d.path? key = d.path? (.standard id) → key = .standard id

variable {d : TemplateDirectory} {path : String}

theorem path?_eq_some : d.path? key = some path ↔
    ∃ name, fileName? key = some name ∧ Disk.join d.root name = path := by
  simp [path?]

theorem path?_join : d.path? key = some (Disk.join d.root name) ↔ fileName? key = some name := by
  simp [path?_eq_some, Disk.join_inj]

theorem path?_inj (h : d.path? key = some path) (hother : d.path? other = some path) :
    key = other := by
  obtain ⟨name, hname, rfl⟩ := path?_eq_some.1 h
  exact fileName?_inj hname (path?_join.1 hother)

theorem isSome_path? : (d.path? key).isSome = true ↔ ∀ segment ∈ key.segments, Plain segment := by
  simp [Option.isSome_iff_exists, path?_eq_some, fileName?_eq_some]

theorem mem_listed {names : List String} {id : String} :
    id ∈ (Entries.ofList ((names.filterMap stem?).map (·, ()))).map (·.1) ↔
      ∃ name ∈ names, fileName? (.standard id) = some name := by
  rw [Entries.mem_keys_ofList]
  simp [stem?_eq_some]

theorem nodup_stems {names : List String} (h : names.Nodup) : (names.filterMap stem?).Nodup := by
  refine List.Nodup.filterMap (fun a b id ha hb => ?_) h
  rw [Option.mem_def, stem?_eq_some] at ha hb
  exact Option.some.inj (ha.symm.trans hb)

theorem screenIds_lists {disk : Disk} {names : List String} (h : disk.names d.root = .ok names) :
    ∃ ids, d.screenIds disk = .ok ids ∧ d.Lists names ids := by
  have hnodup := Entries.nodup_keys (Entries.sorted_ofList ((names.filterMap stem?).map (·, ())))
  refine ⟨_, by rw [screenIds, h], ?_, hnodup, ?_, ?_, ?_⟩
  · exact List.pairwise_map.2 (Entries.sorted_ofList _)
  · intro id
    rw [mem_listed]
    simp only [path?_join]
  · intro hnames
    rw [List.perm_ext_iff_of_nodup hnodup (nodup_stems hnames)]
    intro id
    simp [Entries.mem_keys_ofList]
  · intro id hid
    obtain ⟨name, -, hname⟩ := mem_listed.1 hid
    have hpath : d.path? (.standard id) = some (Disk.join d.root name) := path?_join.2 hname
    refine ⟨(fileName?_standard.1 hname).1, fun key hkey => ?_⟩
    exact path?_inj (hkey.trans hpath) hpath

/-! ### Loading -/

/-- What a key is loaded as if this is at its path. -/
def loaded (key : TemplateKey) (path : String) : FileTree → Except StoreError (Option Document)
  | .file content =>
    match Document.read content with
    | .ok document => .ok (some document)
    | .error fault => .error (.malformed key fault content)
  | .directory _ => .error (.unreadable path .isADirectory)

variable {fs : FileSystem} {entry : FileTree}

theorem load_of_at? (hpath : d.path? key = some path) (h : fs.at? path = .ok entry) :
    d.load fs.disk key = loaded key path entry := by
  unfold load
  simp only [hpath, FileSystem.read_eq, h]
  cases entry <;> rfl

theorem load_of_nameTooLong (hpath : d.path? key = some path)
    (h : fs.at? path = .error .nameTooLong) :
    d.load fs.disk key = .error (.unreadable path .nameTooLong) := by
  unfold load
  simp only [hpath, FileSystem.read_eq, h]

/-- What is at the path of a key is an entry of the directory. -/
theorem entry_of_at? {entries : List (String × FileTree)} (hname : fileName? key = some name)
    (hroot : fs.at? d.root = .ok (.directory entries))
    (h : fs.at? (Disk.join d.root name) = .ok entry) : entries.lookup name = some entry := by
  rw [FileSystem.at?_join hroot (isName_of_fileName? hname)] at h
  split at h
  · cases h
  · cases hentry : entries.lookup name <;> simp_all

/-- A listed id is loaded from the entry that it is listed for. -/
theorem load_listed {entries : List (String × FileTree)} {ids : List String} {id : String}
    (hroot : fs.at? d.root = .ok (.directory entries)) (hids : d.Lists (entries.map (·.1)) ids)
    (hid : id ∈ ids) : ∃ entry path, entries.lookup (id ++ ".json") = some entry ∧
      d.path? (.standard id) = some path ∧
      d.load fs.disk (.standard id) =
        if FileSystem.longestPath < path.utf8ByteSize ∨
          FileTree.longestName < (id ++ ".json").utf8ByteSize
        then .error (.unreadable path .nameTooLong) else loaded (.standard id) path entry := by
  obtain ⟨name, hmem, hpath⟩ := (hids.complete id).1 hid
  obtain ⟨hplain, rfl⟩ := fileName?_standard.1 (path?_join.1 hpath)
  obtain ⟨entry, hentry⟩ := Option.isSome_iff_exists.1 (Lookup.isSome_iff_mem.2 hmem)
  have hat := FileSystem.at?_join hroot (isName_of_fileName? (path?_join.1 hpath))
  refine ⟨entry, _, hentry, hpath, ?_⟩
  rw [hentry] at hat
  split at hat
  · rw [if_pos ‹_›, load_of_nameTooLong hpath hat]
  · rw [if_neg ‹_›, load_of_at? hpath hat]

/-- **Keys neither escape from the directory nor meet in it.** A key has a path exactly if its
parts are plain. The path is the directory joined with one name that ends in `.json`, so what is
found there is an entry of the directory; and no other key has the same path. The ids that are
listed, in order, are those of which the standard template has the path of an entry, and each is
loaded from that entry, if its path is not too long to be looked at. -/
theorem keys_name_own_files (d : TemplateDirectory) :
    (∀ key, (d.path? key).isSome = true ↔ ∀ segment ∈ key.segments, Plain segment) ∧
    (∀ key path, d.path? key = some path → ∃ name, path = Disk.join d.root name ∧
      FileSystem.IsName name ∧ '\\' ∉ name.toList ∧ name.endsWith ".json" = true ∧
      ∀ (fs : FileSystem) entries entry, fs.at? d.root = .ok (.directory entries) →
        fs.at? path = .ok entry → entries.lookup name = some entry) ∧
    (∀ key other path, d.path? key = some path → d.path? other = some path → key = other) ∧
    (∀ (disk : Disk) names, disk.names d.root = .ok names →
      ∃ ids, d.screenIds disk = .ok ids ∧ d.Lists names ids) ∧
    ∀ (fs : FileSystem) entries ids, fs.at? d.root = .ok (.directory entries) →
      d.screenIds fs.disk = .ok ids → ∀ id ∈ ids,
        ∃ entry path, entries.lookup (id ++ ".json") = some entry ∧
          d.path? (.standard id) = some path ∧
          d.load fs.disk (.standard id) =
            if FileSystem.longestPath < path.utf8ByteSize ∨
              FileTree.longestName < (id ++ ".json").utf8ByteSize
            then .error (.unreadable path .nameTooLong)
            else loaded (.standard id) path entry := by
  refine ⟨fun key => isSome_path?, ?_, fun key other path => path?_inj,
    fun disk names => screenIds_lists, ?_⟩
  · intro key path hpath
    obtain ⟨name, hname, rfl⟩ := path?_eq_some.1 hpath
    refine ⟨name, rfl, isName_of_fileName? hname, ?_, endsWith_json hname,
      fun fs entries entry hroot => entry_of_at? hname hroot⟩
    exact fun hmem => (plainChar_of_mem hname hmem).elim (by decide) (by decide)
  · intro fs entries ids hroot hids id hid
    obtain ⟨others, hothers, hlists⟩ := screenIds_lists (FileSystem.names_of_at? hroot)
    obtain rfl : ids = others := by simpa [hids] using hothers
    exact load_listed hroot hlists hid

/-- Templates among other things: a name without an id, one with a blank in it, a directory by
the name of a template, a variant, and a text. -/
def crowdedEntries : List (String × FileTree) :=
  [(".json", .file []), ("a b.json", .file []), ("archive.json", .directory []),
    ("home.fr.json", .file []), ("home.json", .file "[\"home\"]".toUTF8.toList),
    ("notes.txt", .file [])]

def crowded : FileSystem :=
  { root := .directory [("srv", .directory [("t", .directory crowdedEntries)])], here := "/srv" }

theorem crowded_root : crowded.at? "t/" = .ok (.directory crowdedEntries) := by
  have hsegments : crowded.segments "t/" = ["", "srv", "t", ""] := by
    have hrelative : "t/".startsWith "/" = false := by decide +kernel
    rw [FileSystem.segments, hrelative]
    exact TextSplit.splitOn_intercalate (c := '/') (show ["", "srv", "t", ""] ≠ [] by decide)
      (by decide)
  rw [FileSystem.at?_eq _ (by decide) (by decide), hsegments]
  rfl

theorem crowded_ids : (TemplateDirectory.mk "t/").screenIds crowded.disk = .ok ["archive", "home"] := by
  rw [screenIds, FileSystem.names_of_at? crowded_root]
  rfl

/-- The directory is listed without its other entries, what is listed is loaded from its own, and
the variant has a path that no other key has. -/
theorem crowded_keys :
    crowded.at? "t/" = .ok (.directory crowdedEntries) ∧
    (TemplateDirectory.mk "t/").screenIds crowded.disk = .ok ["archive", "home"] ∧
    (TemplateDirectory.mk "t/").load crowded.disk (.standard "home") =
      .ok (some (.ofComponents "home" "" [])) ∧
    (TemplateDirectory.mk "t/").load crowded.disk (.standard "archive") =
      .error (.unreadable "t/archive.json" .isADirectory) ∧
    (∀ key, (TemplateDirectory.mk "t/").path? key = some "t/home.fr.json" →
      key = .ofVariant "home" "fr") ∧
    (TemplateDirectory.mk "t/").path? (.standard "../t/home") = none := by
  obtain ⟨hsome, -, hinj, -, hload⟩ := keys_name_own_files (TemplateDirectory.mk "t/")
  refine ⟨crowded_root, crowded_ids, ?_, ?_, ?_, ?_⟩
  · obtain ⟨entry, path, hentry, hpath, hloaded⟩ :=
      hload _ _ _ crowded_root crowded_ids "home" (by decide)
    obtain rfl : .file "[\"home\"]".toUTF8.toList = entry := Option.some.inj hentry
    have hhome : (TemplateDirectory.mk "t/").path? (.standard "home") = some "t/home.json" := by
      decide +kernel
    obtain rfl := Option.some.inj (hhome.symm.trans hpath)
    rw [hloaded, if_neg (by decide)]
    decide +kernel
  · obtain ⟨entry, path, hentry, hpath, hloaded⟩ :=
      hload _ _ _ crowded_root crowded_ids "archive" (by decide)
    obtain rfl : .directory [] = entry := Option.some.inj hentry
    have harchive : (TemplateDirectory.mk "t/").path? (.standard "archive") = some "t/archive.json" := by
      decide +kernel
    obtain rfl := Option.some.inj (harchive.symm.trans hpath)
    rw [hloaded, if_neg (by decide)]
    rfl
  · exact fun key hkey => hinj key _ _ hkey (by decide +kernel)
  · rw [← Option.not_isSome_iff_eq_none, hsome]
    intro hplain
    have hslash := (hplain "../t/home" (by decide)).chars '/' (by decide)
    exact absurd hslash (by decide)

end TemplateDirectory
end Screens
