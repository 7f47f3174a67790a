import Mathlib.Data.List.Dedup
import Mathlib.Data.List.Induction
import PolledTerminal.Json
set_option autoImplicit false

/-!
# Members of objects

An object is put together from members among which a name may come up again.  Every
name that comes up has one member in it, which holds what came last under that name; so
nothing is lost just when no name comes up twice.
-/

namespace PolledTerminal.Json

variable {name : String} {value : Json} {members : List (String × Json)}

/-- The names of members, in order. -/
def names (members : List (String × Json)) : List String := members.map Prod.fst

/-- The value under a name, in an object that has it. -/
def member? (name : String) : Json → Option Json
  | .obj members => (members.find? fun m => m.1 = name).map Prod.snd
  | _ => none

/-- What an object holds of members among which a name may come up again. -/
def kept (members : List (String × Json)) : List (String × Json) :=
  members.foldl (fun done m => putMember m.1 m.2 done) []

theorem ofMembers_eq (members : List (String × Json)) : ofMembers members = .obj (kept members) :=
  rfl

theorem kept_concat (members : List (String × Json)) (m : String × Json) :
    kept (members ++ [m]) = putMember m.1 m.2 (kept members) := List.foldl_append

theorem names_concat (members : List (String × Json)) (m : String × Json) :
    names (members ++ [m]) = names members ++ [m.1] := List.map_append

theorem nodup_names_concat_iff (members : List (String × Json)) (m : String × Json) :
    (names (members ++ [m])).Nodup ↔ m.1 ∉ names members ∧ (names members).Nodup := by
  rw [names_concat, (List.perm_append_singleton _ _).nodup_iff, List.nodup_cons]

/-! ## One member more -/

/-- A name that came up before keeps its place. -/
theorem names_putMember_of_mem (h : name ∈ names members) :
    names (putMember name value members) = names members := by
  induction members with
  | nil => cases h
  | cons m ms ih =>
      rw [putMember]
      split
      case isTrue hname =>
        rw [names, names, List.map_cons, List.map_cons, hname]
      case isFalse hname =>
        have hlater : name ∈ names ms := by
          rcases List.mem_cons.mp h with hhead | htail
          · exact absurd hhead.symm hname
          · exact htail
        exact congrArg (m.1 :: ·) (ih hlater)

theorem putMember_of_notMem (h : name ∉ names members) :
    putMember name value members = members ++ [(name, value)] := by
  induction members with
  | nil => rfl
  | cons m ms ih =>
      obtain ⟨hhead, htail⟩ : name ≠ m.1 ∧ name ∉ names ms := by
        simpa [names] using h
      rw [putMember, if_neg hhead.symm, ih htail, List.cons_append]

theorem nodup_names_putMember (h : (names members).Nodup) :
    (names (putMember name value members)).Nodup := by
  by_cases hname : name ∈ names members
  · rw [names_putMember_of_mem hname]
    exact h
  · rw [putMember_of_notMem hname]
    exact (nodup_names_concat_iff members (name, value)).mpr ⟨hname, h⟩

/-- The new member takes the place of the old one of its name, and leaves the others. -/
theorem mem_putMember_iff (h : (names members).Nodup) (m : String × Json) :
    m ∈ putMember name value members ↔ m = (name, value) ∨ m.1 ≠ name ∧ m ∈ members := by
  induction members with
  | nil => simp [putMember]
  | cons n ns ih =>
      obtain ⟨hfresh, hrest⟩ := List.nodup_cons.mp h
      rw [putMember]
      split
      case isTrue hname =>
        -- the names behind the replaced member are others
        have hothers : m ∈ ns → m.1 ≠ name := by
          intro hm heq
          apply hfresh
          rw [hname, ← heq]
          exact List.mem_map_of_mem hm
        rw [List.mem_cons, List.mem_cons]
        constructor
        · rintro (hnew | hm)
          · exact .inl hnew
          · exact .inr ⟨hothers hm, .inr hm⟩
        · rintro (hnew | ⟨hne, rfl | hm⟩)
          · exact .inl hnew
          · exact absurd hname hne
          · exact .inr hm
      case isFalse hname =>
        rw [List.mem_cons, List.mem_cons, ih hrest]
        constructor
        · rintro (rfl | hnew | ⟨hne, hm⟩)
          · exact .inr ⟨hname, .inl rfl⟩
          · exact .inl hnew
          · exact .inr ⟨hne, .inr hm⟩
        · rintro (hnew | ⟨hne, hn | hm⟩)
          · exact .inr (.inl hnew)
          · exact .inl hn
          · exact .inr (.inr ⟨hne, hm⟩)

/-! ## All members -/

theorem nodup_names_kept (members : List (String × Json)) : (names (kept members)).Nodup := by
  induction members using List.reverseRecOn with
  | nil => exact List.nodup_nil
  | append_singleton ms m ih =>
      rw [kept_concat]
      exact nodup_names_putMember ih

/-- What is kept is what no later member of the same name has replaced. -/
theorem mem_kept_iff (m : String × Json) :
    m ∈ kept members ↔ ∃ before after, members = before ++ m :: after ∧ m.1 ∉ names after := by
  induction members using List.reverseRecOn with
  | nil => simp [kept]
  | append_singleton ms last ih =>
      rw [kept_concat, mem_putMember_iff (nodup_names_kept ms), ih]
      constructor
      · rintro (rfl | ⟨hne, before, after, rfl, hlast⟩)
        · exact ⟨ms, [], rfl, List.not_mem_nil⟩
        · refine ⟨before, after ++ [last], by simp, ?_⟩
          rw [names_concat, List.mem_append, List.mem_singleton]
          exact not_or.mpr ⟨hlast, hne⟩
      · rintro ⟨before, after, hsplit, hlast⟩
        rcases List.eq_nil_or_concat' after with rfl | ⟨after, n, rfl⟩
        · obtain ⟨-, hm⟩ := List.append_inj' hsplit rfl
          exact .inl (List.singleton_inj.mp hm).symm
        · rw [← List.cons_append, ← List.append_assoc] at hsplit
          obtain ⟨hms, hn⟩ := List.append_inj' hsplit rfl
          rw [← List.singleton_inj.mp hn, names_concat, List.mem_append, List.mem_singleton,
            not_or] at hlast
          exact .inr ⟨hlast.2, before, after, hms, hlast.1⟩

theorem mem_names_kept_iff (members : List (String × Json)) :
    name ∈ names (kept members) ↔ name ∈ names members := by
  induction members using List.reverseRecOn with
  | nil => rfl
  | append_singleton ms m ih =>
      rw [kept_concat, names_concat, List.mem_append, List.mem_singleton]
      by_cases hname : m.1 ∈ names (kept ms)
      · rw [names_putMember_of_mem hname, ih]
        refine (or_iff_left_of_imp ?_).symm
        rintro rfl
        exact ih.mp hname
      · rw [putMember_of_notMem hname, names_concat, List.mem_append, List.mem_singleton, ih]

/-- Every name that comes up is kept once. -/
theorem perm_names_kept (members : List (String × Json)) :
    (names (kept members)).Perm (names members).dedup := by
  rw [List.perm_ext_iff_of_nodup (nodup_names_kept members) (List.nodup_dedup _)]
  intro name
  rw [mem_names_kept_iff, List.mem_dedup]

theorem kept_of_nodup (h : (names members).Nodup) : kept members = members := by
  induction members using List.reverseRecOn with
  | nil => rfl
  | append_singleton ms m ih =>
      obtain ⟨hnew, hms⟩ := (nodup_names_concat_iff ms m).mp h
      rw [kept_concat, ih hms, putMember_of_notMem hnew]

/-- Nothing is lost just when no name comes up twice. -/
theorem perm_kept_iff (members : List (String × Json)) :
    (kept members).Perm members ↔ (names members).Nodup := by
  constructor
  · intro hperm
    have hnames : (names (kept members)).Perm (names members) := hperm.map Prod.fst
    exact hnames.nodup_iff.mp (nodup_names_kept members)
  · intro hnodup
    rw [kept_of_nodup hnodup]

end PolledTerminal.Json
