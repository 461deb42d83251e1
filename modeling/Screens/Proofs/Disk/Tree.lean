import Screens.Disk.Tree
import Screens.Proofs.Text.Split

/-! Paths through a tree.

A path that leads to a directory leads on from there: joined with a name it leads to what the
directory has under the name (`at?_join`). This is so for every name without a slash that
does not itself stand for the directory or the one above. -/
namespace Screens

namespace Disk

variable {directory name : String}

theorem join_inj {a b : String} : join directory a = join directory b ↔ a = b := by
  unfold join
  split
  · rfl
  · split <;> simp [String.append_assoc]

theorem join_ne_empty (h : name ≠ "") : join directory name ≠ "" := by
  unfold join
  split
  · exact h
  · split <;> simp [h]

theorem not_mem_join {c : Char} (hdir : c ∉ directory.toList) (hslash : c ≠ '/')
    (hname : c ∉ name.toList) : c ∉ (join directory name).toList := by
  unfold join
  split
  · exact hname
  · split <;> simp [hdir, hslash, hname]

end Disk

namespace FileTree

/-- One segment: the directories passed after it, and where it leads. -/
def next (above : List FileTree) (here : FileTree) (name : String) :
    Except DiskError (List FileTree × FileTree) :=
  match here with
  | file _ => .error .notADirectory
  | directory entries =>
    if stays name then .ok (above, here)
    else if goesUp name then
      match above with
      | up :: more => .ok (more, up)
      | [] => .ok ([], here)
    else if longestName < name.utf8ByteSize then .error .nameTooLong
    else match entries.lookup name with
      | some entry => .ok (here :: above, entry)
      | none => .error .notFound

theorem follow_cons (above : List FileTree) (here : FileTree) (name : String)
    (rest : List String) : follow above here (name :: rest) =
      (next above here name).bind fun passed => follow passed.1 passed.2 rest := by
  cases here with
  | file content => rfl
  | directory entries =>
    by_cases hstays : stays name = true
    · simp [follow, next, hstays, Except.bind]
    · by_cases hup : goesUp name = true
      · cases above <;> simp [follow, next, hstays, hup, Except.bind]
      · by_cases hlong : longestName < name.utf8ByteSize
        · simp [follow, next, hstays, hup, hlong, Except.bind]
        · cases hentry : entries.lookup name <;>
            simp [follow, next, hstays, hup, hlong, hentry, Except.bind]

/-- What comes after a path is followed from where the path leads. -/
theorem follow_append {above : List FileTree} {here there : FileTree} {path : List String}
    (h : follow above here path = .ok there) :
    ∃ passed, ∀ rest, follow above here (path ++ rest) = follow passed there rest := by
  induction path generalizing above here with
  | nil =>
    cases h
    exact ⟨above, fun rest => rfl⟩
  | cons name path ih =>
    rw [follow_cons] at h
    cases hnext : next above here name with
    | error e => simp [hnext, Except.bind] at h
    | ok passed =>
      rw [hnext] at h
      obtain ⟨after, hafter⟩ := ih h
      refine ⟨after, fun rest => ?_⟩
      rw [List.cons_append, follow_cons, hnext, ← hafter]
      rfl

/-- A slash right after another changes nothing. -/
theorem follow_empty_segment (above : List FileTree) (here : FileTree) (path : List String)
    (name : String) (rest : List String) :
    follow above here (path ++ "" :: name :: rest) = follow above here (path ++ name :: rest) := by
  induction path generalizing above here with
  | nil => cases here <;> rfl
  | cons first path ih => simp only [List.cons_append, follow_cons, ih]

theorem follow_name (above : List FileTree) (entries : List (String × FileTree)) {name : String}
    (hstays : stays name = false) (hup : goesUp name = false) :
    follow above (directory entries) [name] =
      if longestName < name.utf8ByteSize then .error .nameTooLong
      else match entries.lookup name with
        | some entry => .ok entry
        | none => .error .notFound := by
  simp only [follow, hstays, hup]
  rfl

end FileTree

namespace FileSystem

variable {fs : FileSystem} {root name : String}

theorem splitOn_slash (a b : String) :
    (a ++ "/" ++ b).splitOn "/" = a.splitOn "/" ++ b.splitOn "/" := by
  have hcut (s : String) : s.splitOn "/" = (s.toList.splitOn '/').map String.ofList :=
    TextSplit.splitOn_singleton s '/'
  rw [hcut, hcut, hcut, ← List.map_append, ← List.splitOn_append_cons_self]
  simp

theorem splitOn_name (h : '/' ∉ name.toList) : name.splitOn "/" = [name] := by
  have hcut := TextSplit.splitOn_singleton name '/'
  rw [List.splitOn_eq_singleton h] at hcut
  simpa using hcut

/-- Where a path starts does not change when it is lengthened. -/
theorem segments_append (fs : FileSystem) (h : root ≠ "") : ∃ start : String, ∀ more : String,
    fs.segments (root ++ more) = (start ++ root ++ more).splitOn "/" := by
  have hstarts (more : String) : (root ++ more).startsWith "/" = root.startsWith "/" := by
    rw [Bool.eq_iff_iff, String.startsWith_string_iff, String.startsWith_string_iff]
    cases hroot : root.toList with
    | nil => exact absurd (String.toList_eq_nil_iff.1 hroot) h
    | cons c rest => simp [hroot]
  by_cases habsolute : root.startsWith "/" = true
  · refine ⟨"", fun more => ?_⟩
    rw [segments, hstarts, if_pos habsolute, String.empty_append]
  · refine ⟨fs.here ++ "/", fun more => ?_⟩
    rw [segments, hstarts, if_neg habsolute, ← String.append_assoc]

/-- With or without a slash at its end, a path that is joined with a name leads on by the name. -/
theorem follow_join (fs : FileSystem) (h : root ≠ "") (hname : '/' ∉ name.toList) :
    FileTree.follow [] fs.root (fs.segments (Disk.join root name)) =
      FileTree.follow [] fs.root (fs.segments root ++ [name]) := by
  obtain ⟨start, hsegments⟩ := segments_append fs h
  have hroot : fs.segments root = (start ++ root).splitOn "/" := by simpa using hsegments ""
  unfold Disk.join
  rw [if_neg (by simpa using h)]
  split
  · -- The segment after the slash at the end is empty.
    rename_i hends
    obtain ⟨front, rfl⟩ := TextSplit.endsWith_iff.1 hends
    have hback : fs.segments (front ++ "/") = (start ++ front).splitOn "/" ++ [""] := by
      have hcut := splitOn_slash (start ++ front) ""
      rw [splitOn_name (show '/' ∉ "".toList by simp), String.append_empty, String.append_assoc] at hcut
      rw [hroot, hcut]
    rw [hback, hsegments, ← String.append_assoc, splitOn_slash, splitOn_name hname,
      List.append_assoc]
    exact (FileTree.follow_empty_segment _ _ _ _ _).symm
  · rw [String.append_assoc, hsegments, ← String.append_assoc, splitOn_slash, splitOn_name hname,
      hroot]

/-- What an entry of a directory can be called. -/
structure IsName (name : String) : Prop where
  nonempty : name ≠ ""
  here : name ≠ "."
  above : name ≠ ".."
  separator : '/' ∉ name.toList
  nul : '\x00' ∉ name.toList

/-- A path that leads somewhere can be looked at. -/
theorem follow_of_at? {there : FileTree} (h : fs.at? root = .ok there) :
    root ≠ "" ∧ '\x00' ∉ root.toList ∧
      FileTree.follow [] fs.root (fs.segments root) = .ok there := by
  unfold at? at h
  split at h
  · cases h
  · split at h
    · cases h
    · split at h
      · cases h
      · exact ⟨by simp_all, by simp_all, h⟩

theorem at?_eq (fs : FileSystem) {path : String} (hne : path ≠ "") (hnul : '\x00' ∉ path.toList) :
    fs.at? path = if longestPath < path.utf8ByteSize then .error .nameTooLong
      else FileTree.follow [] fs.root (fs.segments path) := by
  simp [at?, hne, hnul]

/-- A directory joined with a name is what the directory has under the name, unless one of the
two is too long to be looked at. -/
theorem at?_join {entries : List (String × FileTree)} (h : fs.at? root = .ok (.directory entries))
    (hname : IsName name) : fs.at? (Disk.join root name) =
      if longestPath < (Disk.join root name).utf8ByteSize ∨ FileTree.longestName < name.utf8ByteSize
      then .error .nameTooLong
      else match entries.lookup name with
        | some entry => .ok entry
        | none => .error .notFound := by
  obtain ⟨hne, hnul, hroot⟩ := follow_of_at? h
  obtain ⟨passed, hpassed⟩ := FileTree.follow_append hroot
  have hstays : FileTree.stays name = false := by
    simp [FileTree.stays, hname.nonempty, hname.here]
  have hup : FileTree.goesUp name = false := by simp [FileTree.goesUp, hname.above]
  rw [at?_eq fs (Disk.join_ne_empty hname.nonempty) (Disk.not_mem_join hnul (by decide) hname.nul),
    follow_join fs hne hname.separator, hpassed, FileTree.follow_name _ _ hstays hup]
  by_cases hlong : longestPath < (Disk.join root name).utf8ByteSize
  · simp [hlong]
  · simp [hlong]

/-- A file is read by its path, a directory is none to read. -/
theorem read_eq (fs : FileSystem) (path : String) : fs.disk.read path =
    match fs.at? path with
    | .ok (.file content) => .ok content
    | .ok (.directory _) => .error .isADirectory
    | .error e => .error e := by
  simp only [Disk.read, disk]
  cases fs.at? path with
  | error e => rfl
  | ok entry => cases entry <;> rfl

theorem names_of_at? {path : String} {entries : List (String × FileTree)}
    (h : fs.at? path = .ok (.directory entries)) : fs.disk.names path = .ok (entries.map (·.1)) := by
  simp only [Disk.names, disk, h]
  rfl

end FileSystem
end Screens
