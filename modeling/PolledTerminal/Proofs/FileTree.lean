import Mathlib.Data.List.Basic
import Mathlib.Tactic.SplitIfs
import PolledTerminal.FileTree
import PolledTerminal.Proofs.Except
set_option autoImplicit false

/-!
# Written files

A file that has been written can be read back by the path that it was written to, and
every other file still has its contents.  The reason is that neither writing nor creating
takes a directory away, so every path leads where it led before.
-/

namespace PolledTerminal

open PolledTerminal.Text (Bytes)

/-! ## Paths -/

namespace FilePath

/-- The name leads from a directory to an entry of it. -/
structure IsPlainName (name : String) : Prop where
  ne_empty : name ≠ ""
  ne_here : name ≠ "."
  ne_above : name ≠ ".."
  noSlash : '/' ∉ name.toList

theorem pieces_ne_nil (cs : List Char) : pieces cs ≠ [] := by
  cases cs with
  | nil => exact List.cons_ne_nil _ _
  | cons c cs =>
      rw [pieces]
      split_ifs
      · exact List.cons_ne_nil _ _
      · split <;> exact List.cons_ne_nil _ _

/-- A separator separates the pieces before it from those behind it. -/
theorem pieces_append_slash (cs ds : List Char) :
    pieces (cs ++ '/' :: ds) = pieces cs ++ pieces ds := by
  induction cs with
  | nil => rfl
  | cons c cs ih =>
      rw [List.cons_append, pieces, pieces]
      split_ifs
      · rw [ih, List.cons_append]
      · obtain ⟨p, ps, hpieces⟩ := List.exists_cons_of_ne_nil (pieces_ne_nil cs)
        rw [ih, hpieces]
        rfl

theorem pieces_of_notMem {cs : List Char} (h : '/' ∉ cs) : pieces cs = [cs] := by
  induction cs with
  | nil => rfl
  | cons c cs ih =>
      obtain ⟨hc, hcs⟩ := not_or.mp (mt List.mem_cons.mpr h)
      rw [pieces, if_neg (Ne.symm hc), ih hcs]

/-- In a joined path the name stands alone or behind a separator. -/
theorem toList_join {name : String} (h : IsPlainName name) (dir : String) :
    (join dir name).toList = name.toList ∨
      ∃ cs, (join dir name).toList = cs ++ '/' :: name.toList := by
  have hrelative : ¬ isAbsolute name = true := by
    intro habsolute
    exact h.noSlash (List.mem_of_mem_head? (eq_of_beq habsolute))
  rw [join, if_neg hrelative]
  dsimp only
  split_ifs with hbetween
  · rcases Bool.or_eq_true_iff.mp hbetween with hempty | hslash
    · left
      rw [String.isEmpty_iff.mp hempty]
      simp
    · right
      obtain ⟨cs, hcs⟩ := List.getLast?_eq_some_iff.mp (eq_of_beq hslash)
      refine ⟨cs, ?_⟩
      simp [hcs]
  · right
    refine ⟨dir.toList, ?_⟩
    simp

end FilePath

namespace FileTree

variable {t t' t'' : FileTree} {names others : List String} {path : String} {bytes : Bytes}

theorem exists_namesOf_join {name : String} (h : FilePath.IsPlainName name) (dir : String) :
    ∃ front, namesOf (FilePath.join dir name) = front ++ [name] := by
  have hname : (FilePath.pieces name.toList).map String.ofList = [name] := by
    rw [FilePath.pieces_of_notMem h.noSlash, List.map_singleton, String.ofList_toList]
  unfold namesOf
  rcases FilePath.toList_join h dir with heq | ⟨cs, heq⟩
  · rw [heq, hname]
    exact ⟨[], rfl⟩
  · rw [heq, FilePath.pieces_append_slash, List.map_append, hname]
    exact ⟨_, rfl⟩

/-! ## Entries -/

theorem entry?_put_self (hne : names ≠ []) (t : FileTree) (e : FileEntry) :
    entry? (t.put names e) names = some e := by
  unfold entry?
  rw [if_neg (by rwa [List.isEmpty_iff]), put, List.find?_cons_of_pos (by simp)]
  rfl

theorem entry?_put_of_ne (h : others ≠ names) (t : FileTree) (e : FileEntry) :
    entry? (t.put names e) others = t.entry? others := by
  have hfind : ((t.put names e).entries.find? fun e => e.1 = others) =
      t.entries.find? fun e => e.1 = others := by
    rw [put, List.find?_cons_of_neg (by simpa using h.symm), List.find?_filter]
    refine congrArg (List.find? · t.entries) (funext fun old => ?_)
    by_cases hold : old.1 = others
    · simp [hold, h]
    · simp [hold]
  unfold entry?
  rw [hfind]

/-- What is there stays there, except under the names that have been written to, and
directories stay in any case. -/
structure KeepsBut (written : List (List String)) (t t' : FileTree) : Prop where
  workingDirectory : t'.workingDirectory = t.workingDirectory
  directories : ∀ names, t.entry? names = some .directory → t'.entry? names = some .directory
  entries : ∀ names e, t.entry? names = some e → names ∉ written → t'.entry? names = some e

namespace KeepsBut

variable {written written' : List (List String)}

theorem refl (t : FileTree) : KeepsBut [] t t := ⟨rfl, fun _ h => h, fun _ _ h _ => h⟩

theorem trans (h : KeepsBut written t t') (h' : KeepsBut written' t' t'') :
    KeepsBut (written ++ written') t t'' where
  workingDirectory := h'.workingDirectory.trans h.workingDirectory
  directories names hdirectory := h'.directories names (h.directories names hdirectory)
  entries names e hentry hnew := by
    obtain ⟨hnew, hnew'⟩ := not_or.mp (mt List.mem_append.mpr hnew)
    exact h'.entries names e (h.entries names e hentry hnew) hnew'

/-- A file may be put where there is no directory. -/
theorem put_file (h : t.entry? names ≠ some .directory) (bytes : Bytes) :
    KeepsBut [names] t (t.put names (.file bytes)) where
  workingDirectory := rfl
  directories others hdirectory := by
    have hne : others ≠ names := by
      rintro rfl
      exact h hdirectory
    rw [entry?_put_of_ne hne, hdirectory]
  entries others e hentry hne := by
    rw [entry?_put_of_ne (mt List.mem_singleton.mpr hne), hentry]

/-- A directory may be put where there is nothing. -/
theorem put_directory (h : t.entry? names = none) : KeepsBut [] t (t.put names .directory) := by
  have hentries {others : List String} {e : FileEntry} (hentry : t.entry? others = some e) :
      entry? (t.put names .directory) others = some e := by
    have hne : others ≠ names := by
      rintro rfl
      rw [h] at hentry
      cases hentry
    rw [entry?_put_of_ne hne, hentry]
  exact ⟨rfl, fun _ => hentries, fun _ _ hentry _ => hentries hentry⟩

end KeepsBut

/-! ## Where paths lead -/

theorem directory_of_walk_cons {here dest : List String} {name : String}
    (h : t.walk here (name :: names) = .ok dest) : t.entry? here = some .directory := by
  rw [walk] at h
  split at h
  case h_1 => cases h
  case h_2 => cases h
  case h_3 hdirectory => exact hdirectory

theorem walk_cons {here : List String} (h : t.entry? here = some .directory) (name : String)
    (names : List String) :
    t.walk here (name :: names) =
      if name = "" ∨ name = "." then t.walk here names
      else if name = ".." then t.walk here.dropLast names
      else if longestName < name.utf8ByteSize then .error .nameTooLong
      else t.walk (here ++ [name]) names := by
  rw [walk, h]

/-- A walk only needs the directories on its way. -/
theorem KeepsBut.walk {written : List (List String)} (h : KeepsBut written t t')
    {here dest : List String} (hwalk : t.walk here names = .ok dest) :
    t'.walk here names = .ok dest := by
  induction names generalizing here with
  | nil => exact hwalk
  | cons name names ih =>
      have hdirectory := directory_of_walk_cons hwalk
      rw [walk_cons hdirectory] at hwalk
      rw [walk_cons (h.directories here hdirectory)]
      split_ifs at hwalk ⊢
      · exact ih hwalk
      · exact ih hwalk
      · exact ih hwalk

theorem KeepsBut.locate {written : List (List String)} (h : KeepsBut written t t')
    (hlocate : t.locate path = .ok names) : t'.locate path = .ok names := by
  unfold FileTree.locate at hlocate ⊢
  rw [h.workingDirectory]
  generalize (if FilePath.isAbsolute path then [] else t.workingDirectory) = start at hlocate ⊢
  split_ifs at hlocate ⊢
  exact h.walk hlocate

/-- A walk to a plain name ends with this name. -/
theorem getLast?_of_walk {name : String} (hname : FilePath.IsPlainName name)
    {front here dest : List String} (h : t.walk here (front ++ [name]) = .ok dest) :
    dest.getLast? = some name := by
  induction front generalizing here with
  | nil =>
      rw [List.nil_append, walk_cons (directory_of_walk_cons h),
        if_neg (not_or.mpr ⟨hname.ne_empty, hname.ne_here⟩), if_neg hname.ne_above] at h
      split_ifs at h
      cases h
      exact List.getLast?_concat
  | cons first front ih =>
      rw [List.cons_append] at h
      rw [walk_cons (directory_of_walk_cons h)] at h
      split_ifs at h
      · exact ih h
      · exact ih h
      · exact ih h

theorem getLast?_of_locate_join {name dir : String} (hname : FilePath.IsPlainName name)
    (h : t.locate (FilePath.join dir name) = .ok names) : names.getLast? = some name := by
  obtain ⟨front, hfront⟩ := exists_namesOf_join hname dir
  unfold locate at h
  rw [hfront] at h
  generalize (if FilePath.isAbsolute (FilePath.join dir name) then [] else t.workingDirectory) =
    start at h
  split_ifs at h
  exact getLast?_of_walk hname h

/-! ## Contents -/

theorem contents_eq_ok_iff (t : FileTree) (path : String) (bytes : Bytes) :
    t.contents path = .ok bytes ↔
      ∃ names, t.locate path = .ok names ∧ t.entry? names = some (.file bytes) := by
  unfold contents
  constructor
  · intro h
    split at h
    case h_1 => cases h
    case h_2 names hlocate =>
      refine ⟨names, hlocate, ?_⟩
      split at h
      case h_1 => cases h
      case h_2 => cases h
      case h_3 bytes' hentry =>
        cases h
        exact hentry
  · rintro ⟨names, hlocate, hentry⟩
    simp only [hlocate, hentry]

/-- A file keeps its contents if it is not where something has been written. -/
theorem KeepsBut.contents {written : List (List String)} (h : KeepsBut written t t')
    (hcontents : t.contents path = .ok bytes) :
    t'.contents path = .ok bytes ∨ ∃ names ∈ written, t'.locate path = .ok names := by
  obtain ⟨names, hlocate, hentry⟩ := (contents_eq_ok_iff t path bytes).mp hcontents
  have hlocate' := h.locate hlocate
  by_cases hwritten : names ∈ written
  · exact .inr ⟨names, hwritten, hlocate'⟩
  · left
    exact (contents_eq_ok_iff t' path bytes).mpr
      ⟨names, hlocate', h.entries names _ hentry hwritten⟩

/-! ## Writing and creating -/

theorem withoutLastSlashes_of_not_endsInSlash (h : endsInSlash path = false) :
    withoutLastSlashes path = path := by
  have hkeep : (path.toList.reverse.dropWhile (· = '/')).reverse = path.toList := by
    rcases List.eq_nil_or_concat' path.toList with hnil | ⟨cs, c, hconcat⟩
    · rw [hnil]
      rfl
    · have hc : c ≠ '/' := by
        rintro rfl
        rw [endsInSlash, hconcat, List.getLast?_concat] at h
        cases h
      rw [hconcat, List.reverse_concat, List.dropWhile_cons_of_neg (by simpa using hc),
        List.reverse_cons, List.reverse_reverse]
  unfold withoutLastSlashes
  dsimp only
  rw [hkeep, String.ofList_toList, ite_self]

/-- Writing puts the file where the path leads, and there is no directory there. -/
theorem of_writeFile (h : t.writeFile path bytes = .ok t') :
    ∃ names, t.locate path = .ok names ∧ t.entry? names ≠ some .directory ∧
      t' = t.put names (.file bytes) := by
  unfold writeFile at h
  obtain ⟨names, hlocate, h⟩ := bind_eq_ok.mp h
  cases hslash : endsInSlash path with
  | true =>
      rw [hslash] at h
      split at h <;> cases h
  | false =>
      rw [hslash] at h
      rw [withoutLastSlashes_of_not_endsInSlash hslash] at hlocate
      split at h
      case h_1 => cases h
      case h_2 hentry =>
        cases h
        exact ⟨names, hlocate, by rw [hentry]; exact nofun, rfl⟩
      case h_3 hentry =>
        cases h
        exact ⟨names, hlocate, by rw [hentry]; exact nofun, rfl⟩

/-- What has been written can be read back, and only where it was written anything has
changed. -/
theorem contents_of_writeFile (h : t.writeFile path bytes = .ok t') :
    ∃ names, t'.locate path = .ok names ∧ t'.contents path = .ok bytes ∧
      KeepsBut [names] t t' := by
  obtain ⟨names, hlocate, hentry, rfl⟩ := of_writeFile h
  have hkeeps := KeepsBut.put_file hentry bytes
  have hne : names ≠ [] := by
    rintro rfl
    exact hentry rfl
  exact ⟨names, hkeeps.locate hlocate, (contents_eq_ok_iff _ _ _).mpr
    ⟨names, hkeeps.locate hlocate, entry?_put_self hne t _⟩, hkeeps⟩

theorem keepsBut_createDirectory (h : t.createDirectory path = .ok t') : KeepsBut [] t t' := by
  unfold createDirectory at h
  obtain ⟨names, -, h⟩ := bind_eq_ok.mp h
  split_ifs at h with hentry
  · cases h
  · cases h
    exact .put_directory (Option.not_isSome_iff_eq_none.mp hentry)

theorem keepsBut_createWithin {depth : Nat} (h : t.createWithin depth path = .ok t') :
    KeepsBut [] t t' := by
  induction depth generalizing t t' path with
  | zero => cases h
  | succ depth ih =>
      by_cases hempty : path.isEmpty = true
      · rw [createWithin, if_pos hempty] at h
        cases h
        exact .refl t
      rw [createWithin, if_neg hempty] at h
      split at h
      case h_1 t₁ hcreated =>
        cases h
        exact keepsBut_createDirectory hcreated
      case h_2 =>
        split at h
        case h_1 => cases h
        case h_2 outer _ =>
          split at h
          case h_1 => cases h
          case h_2 t₁ houter =>
            have hkept := ih houter
            split at h
            case h_1 t₂ hcreated =>
              cases h
              exact hkept.trans (keepsBut_createDirectory hcreated)
            case h_2 =>
              split_ifs at h
              cases h
              exact hkept
      case h_3 =>
        split_ifs at h
        cases h
        exact .refl t

/-- Creating directories changes no file. -/
theorem keepsBut_createDirectories (h : t.createDirectories path = .ok t') : KeepsBut [] t t' :=
  keepsBut_createWithin h

end FileTree

end PolledTerminal
