import PolledTerminal.Proofs.Terminal.Wiring
set_option autoImplicit false

/-!
# Watching devices

A device that is watched answers as before and counts how often it is read and
written.  On a bus where everything but the first display and the first keyboard is
watched a terminal has the same two devices at the same ports.
-/

namespace PolledTerminal

open TerminalPeripheral (ofDisplay ofKeyboard)

/-- The first answer is the answer of the first that has one. -/
theorem findSome?_eq_bind_find? {α β : Type} (f : α → Option β) (xs : List α) :
    xs.findSome? f = (xs.find? fun x => (f x).isSome).bind f := by
  induction xs with
  | nil => rfl
  | cons x xs ih =>
      rw [List.findSome?_cons, List.find?_cons]
      cases h : f x with
      | none => simpa using ih
      | some answer => simp [h]

/-- A device, or one that is watched; what is watched counts as another device, and
not as a display or a keyboard. -/
inductive Watched (δ : Type) where
  | plain (x : δ)
  /-- with the number of reads and writes so far -/
  | watched (x : δ) (calls : Nat)

variable {δ : Type} [TerminalPeripheral δ]

namespace Watched

/-- The device itself. -/
def device : Watched δ → δ
  | plain x => x
  | watched x _ => x

/-- The reads and writes so far, if they are counted. -/
def calls? : Watched δ → Option Nat
  | plain _ => none
  | watched _ calls => some calls

/-- The device after an access. -/
def accessed (x : δ) : Watched δ → Watched δ
  | plain _ => plain x
  | watched _ calls => watched x (calls + 1)

/-- The device after something that is no access. -/
def replaced (x : δ) : Watched δ → Watched δ
  | plain _ => plain x
  | watched _ calls => watched x calls

instance : TerminalPeripheral (Watched δ) where
  registerCount x := Peripheral.registerCount x.device
  read x offset :=
    let (answer, x') := Peripheral.read x.device offset
    (answer, x.accessed x')
  write x offset value :=
    let (answer, x', printed) := Peripheral.write x.device offset value
    (answer, x.accessed x', printed)
  tick x := x.replaced (Peripheral.tick x.device)
  snapshot x := Peripheral.snapshot x.device
  patience x := Peripheral.patience x.device
  ofDisplay d := plain (ofDisplay d)
  ofKeyboard k := plain (ofKeyboard k)
  display?
    | plain x => TerminalPeripheral.display? x
    | watched _ _ => none
  keyboard?
    | plain x => TerminalPeripheral.keyboard? x
    | watched _ _ => none

instance [LawfulTerminalPeripheral δ] : LawfulTerminalPeripheral (Watched δ) where
  display?_eq_some_iff {x d} := by
    cases x with
    | plain x =>
        show TerminalPeripheral.display? x = some d ↔ plain x = plain (ofDisplay d)
        rw [LawfulTerminalPeripheral.display?_eq_some_iff, plain.injEq]
    | watched x calls => exact ⟨nofun, nofun⟩
  keyboard?_eq_some_iff {x k} := by
    cases x with
    | plain x =>
        show TerminalPeripheral.keyboard? x = some k ↔ plain x = plain (ofKeyboard k)
        rw [LawfulTerminalPeripheral.keyboard?_eq_some_iff, plain.injEq]
    | watched x calls => exact ⟨nofun, nofun⟩
  keyboard?_ofDisplay d := LawfulTerminalPeripheral.keyboard?_ofDisplay (δ := δ) d
  registerCount_ofDisplay d := LawfulTerminalPeripheral.registerCount_ofDisplay (δ := δ) d
  registerCount_ofKeyboard k := LawfulTerminalPeripheral.registerCount_ofKeyboard (δ := δ) k
  patience_ofDisplay d := LawfulTerminalPeripheral.patience_ofDisplay (δ := δ) d
  read_ofDisplay d offset := by
    show ((Peripheral.read (ofDisplay d : δ) offset).1,
      plain (Peripheral.read (ofDisplay d : δ) offset).2) = _
    rw [LawfulTerminalPeripheral.read_ofDisplay]
    rfl
  write_ofDisplay d offset value := by
    show ((Peripheral.write (ofDisplay d : δ) offset value).1,
      plain (Peripheral.write (ofDisplay d : δ) offset value).2.1,
      (Peripheral.write (ofDisplay d : δ) offset value).2.2) = _
    rw [LawfulTerminalPeripheral.write_ofDisplay]
    rfl
  tick_ofDisplay d := congrArg plain (LawfulTerminalPeripheral.tick_ofDisplay (δ := δ) d)
  read_ofKeyboard k offset := by
    show ((Peripheral.read (ofKeyboard k : δ) offset).1,
      plain (Peripheral.read (ofKeyboard k : δ) offset).2) = _
    rw [LawfulTerminalPeripheral.read_ofKeyboard]
    rfl
  write_ofKeyboard k offset value := by
    show ((Peripheral.write (ofKeyboard k : δ) offset value).1,
      plain (Peripheral.write (ofKeyboard k : δ) offset value).2.1,
      (Peripheral.write (ofKeyboard k : δ) offset value).2.2) = _
    rw [LawfulTerminalPeripheral.write_ofKeyboard]
    rfl
  tick_ofKeyboard k := congrArg plain (LawfulTerminalPeripheral.tick_ofKeyboard (δ := δ) k)
  other_read {x} hd hk offset := by
    cases x with
    | plain x => exact LawfulTerminalPeripheral.other_read (x := x) hd hk offset
    | watched x calls => exact ⟨rfl, rfl⟩
  other_write {x} hd hk offset value := by
    cases x with
    | plain x => exact LawfulTerminalPeripheral.other_write (x := x) hd hk offset value
    | watched x calls => exact ⟨rfl, rfl⟩
  other_tick {x} hd hk := by
    cases x with
    | plain x => exact LawfulTerminalPeripheral.other_tick (x := x) hd hk
    | watched x calls => exact ⟨rfl, rfl⟩

/-- Time does not count as an access. -/
theorem calls?_tick_iterate (n : Nat) (x : Watched δ) :
    ((Peripheral.tick^[n]) x).calls? = x.calls? := by
  have htick (x : Watched δ) : (Peripheral.tick x).calls? = x.calls? := by
    cases x <;> rfl
  induction n generalizing x with
  | zero => rfl
  | succ n ih => rw [Function.iterate_succ_apply, ih, htick]

end Watched

/-! ## Mappings -/

namespace Mapping

omit [TerminalPeripheral δ]

/-- The mapping as it is. -/
def plain (m : Mapping δ) : Mapping (Watched δ) :=
  ⟨m.name, m.base, m.size, .plain m.device⟩

/-- The mapping, watched from now on. -/
def watched (m : Mapping δ) : Mapping (Watched δ) :=
  ⟨m.name, m.base, m.size, .watched m.device 0⟩

end Mapping

/-- Watch all of the mappings but the first display, where one is wanted, and the first
keyboard, where one is wanted. -/
def watchBut : Bool → Bool → List (Mapping δ) → List (Mapping (Watched δ))
  | _, _, [] => []
  | display, keyboard, m :: ms =>
    if display && m.isDisplay then m.plain :: watchBut false keyboard ms
    else if keyboard && m.isKeyboard then m.plain :: watchBut display false ms
    else m.watched :: watchBut display keyboard ms

theorem place_watchBut (display keyboard : Bool) (ms : List (Mapping δ)) :
    (watchBut display keyboard ms).map Mapping.place = ms.map Mapping.place := by
  induction ms generalizing display keyboard with
  | nil => rfl
  | cons m ms ih =>
      rw [watchBut, List.map_cons]
      split_ifs
      all_goals
        rw [List.map_cons, ih]
        rfl

@[simp] theorem Mapping.isDisplay_plain (m : Mapping δ) : m.plain.isDisplay = m.isDisplay := rfl

@[simp] theorem Mapping.isKeyboard_plain (m : Mapping δ) : m.plain.isKeyboard = m.isKeyboard := rfl

@[simp] theorem Mapping.isDisplay_watched (m : Mapping δ) : m.watched.isDisplay = false := rfl

@[simp] theorem Mapping.isKeyboard_watched (m : Mapping δ) : m.watched.isKeyboard = false := rfl

section Lawful

variable [LawfulTerminalPeripheral δ]

/-- A mapping is not both a display and a keyboard. -/
theorem Mapping.kinds (m : Mapping δ) :
    (m.isDisplay = true ∧ m.isKeyboard = false) ∨ (m.isDisplay = false ∧ m.isKeyboard = true) ∨
      (m.isDisplay = false ∧ m.isKeyboard = false) := by
  cases hd : m.isDisplay with
  | true => exact .inl ⟨rfl, Bus.isKeyboard_of_isDisplay hd⟩
  | false =>
      cases hk : m.isKeyboard with
      | true => exact .inr (.inl ⟨rfl, rfl⟩)
      | false => exact .inr (.inr ⟨rfl, rfl⟩)

theorem find?_isDisplay_watchBut (display keyboard : Bool) (ms : List (Mapping δ)) :
    (watchBut display keyboard ms).find? Mapping.isDisplay =
      if display then (ms.find? Mapping.isDisplay).map Mapping.plain else none := by
  induction ms generalizing display keyboard with
  | nil => cases display <;> rfl
  | cons m ms ih =>
      rcases m.kinds with ⟨hd, hk⟩ | ⟨hd, hk⟩ | ⟨hd, hk⟩ <;>
        cases display <;> cases keyboard <;> simp [watchBut, hd, hk, ih]

theorem find?_isKeyboard_watchBut (display keyboard : Bool) (ms : List (Mapping δ)) :
    (watchBut display keyboard ms).find? Mapping.isKeyboard =
      if keyboard then (ms.find? Mapping.isKeyboard).map Mapping.plain else none := by
  induction ms generalizing display keyboard with
  | nil => cases keyboard <;> rfl
  | cons m ms ih =>
      rcases m.kinds with ⟨hd, hk⟩ | ⟨hd, hk⟩ | ⟨hd, hk⟩ <;>
        cases display <;> cases keyboard <;> simp [watchBut, hd, hk, ih]

/-- Where no display is wanted there is none. -/
theorem eraseP_isDisplay_watchBut (keyboard : Bool) (ms : List (Mapping δ)) :
    (watchBut false keyboard ms).eraseP Mapping.isDisplay = watchBut false keyboard ms :=
  List.eraseP_of_forall_not (List.find?_eq_none.mp (find?_isDisplay_watchBut false keyboard ms))

theorem eraseP_isKeyboard_watchBut (display : Bool) (ms : List (Mapping δ)) :
    (watchBut display false ms).eraseP Mapping.isKeyboard = watchBut display false ms :=
  List.eraseP_of_forall_not (List.find?_eq_none.mp (find?_isKeyboard_watchBut display false ms))

/-- The others are watched. -/
theorem eraseP_watchBut (display keyboard : Bool) (ms : List (Mapping δ)) :
    ((watchBut display keyboard ms).eraseP Mapping.isDisplay).eraseP Mapping.isKeyboard =
      ((ms.eraseP fun m => display && m.isDisplay).eraseP fun m =>
        keyboard && m.isKeyboard).map Mapping.watched := by
  have hnone (ms : List (Mapping δ)) : (ms.eraseP fun _ => false) = ms :=
    List.eraseP_of_forall_not (by simp)
  induction ms generalizing display keyboard with
  | nil => rfl
  | cons m ms ih =>
      have hnoDisplay (keyboard : Bool) :
          (watchBut false keyboard ms).eraseP Mapping.isKeyboard =
            (ms.eraseP fun m => keyboard && m.isKeyboard).map Mapping.watched := by
        rw [← eraseP_isDisplay_watchBut, ih]
        simp only [Bool.false_and, hnone]
      have hnoKeyboard (display : Bool) :
          (watchBut display false ms).eraseP Mapping.isDisplay =
            (ms.eraseP fun m => display && m.isDisplay).map Mapping.watched := by
        rw [← eraseP_isKeyboard_watchBut, ← eraseP_comm fun _ => Bus.isKeyboard_of_isDisplay, ih]
        simp only [Bool.false_and, hnone]
      rcases m.kinds with ⟨hd, hk⟩ | ⟨hd, hk⟩ | ⟨hd, hk⟩ <;>
        cases display <;> cases keyboard <;>
          simp [watchBut, hd, hk, ih, hnoDisplay, hnoKeyboard, hnone]

/-! ## Buses -/

namespace Bus

omit [LawfulTerminalPeripheral δ] in
/-- The bus with all of its devices watched but the first display and the first
keyboard. -/
def watch (b : Bus δ) : Bus (Watched δ) where
  ram := b.ram
  mappings := watchBut true true b.mappings
  cycles := b.cycles
  printed := b.printed

theorem bystanders_watch (b : Bus δ) : b.watch.bystanders = b.bystanders.map Mapping.watched := by
  rw [bystanders, watch, eraseP_watchBut]
  simp only [Bool.true_and]
  rfl

variable {b : Bus δ} {ports : TerminalPorts} {d : Display} {k : Keyboard}

omit [LawfulTerminalPeripheral δ] in
theorem sized_watch (hb : b.Sized) : b.watch.Sized := by
  have hsized (display keyboard : Bool) (ms : List (Mapping δ))
      (hms : ∀ m ∈ ms, (m.isDisplay = true → m.size = 2) ∧ (m.isKeyboard = true → m.size = 1)) :
      ∀ n ∈ watchBut display keyboard ms,
        (n.isDisplay = true → n.size = 2) ∧ (n.isKeyboard = true → n.size = 1) := by
    induction ms generalizing display keyboard with
    | nil => exact nofun
    | cons m ms ih =>
        obtain ⟨hm, hms⟩ := List.forall_mem_cons.mp hms
        rw [watchBut]
        split_ifs
        · exact List.forall_mem_cons.mpr ⟨hm, ih false keyboard hms⟩
        · exact List.forall_mem_cons.mpr ⟨hm, ih display false hms⟩
        · exact List.forall_mem_cons.mpr ⟨⟨nofun, nofun⟩, ih display keyboard hms⟩
  exact hsized true true b.mappings hb

theorem ofBus?_watch (b : Bus δ) :
    TerminalPorts.ofBus? b.watch = TerminalPorts.ofBus? b := by
  have hdisplay : b.watch.displayBase? = b.displayBase? := by
    show ((watchBut true true b.mappings).find? Mapping.isDisplay).map Mapping.base = _
    rw [find?_isDisplay_watchBut, if_pos rfl, Option.map_map]
    rfl
  have hkeyboard : b.watch.keyboardBase? = b.keyboardBase? := by
    show ((watchBut true true b.mappings).find? Mapping.isKeyboard).map Mapping.base = _
    rw [find?_isKeyboard_watchBut, if_pos rfl, Option.map_map]
    rfl
  rw [TerminalPorts.ofBus?, TerminalPorts.ofBus?, hdisplay, hkeyboard]

theorem display?_watch (b : Bus δ) : b.watch.display? = b.display? := by
  have hfind : b.watch.mappings.find? Mapping.isDisplay =
      (b.mappings.find? Mapping.isDisplay).map Mapping.plain :=
    find?_isDisplay_watchBut true true b.mappings
  rw [display?, display?, findSome?_eq_bind_find?, findSome?_eq_bind_find?]
  show (b.watch.mappings.find? Mapping.isDisplay).bind _ = _
  rw [hfind, Option.bind_map]
  rfl

theorem keyboard?_watch (b : Bus δ) : b.watch.keyboard? = b.keyboard? := by
  have hfind : b.watch.mappings.find? Mapping.isKeyboard =
      (b.mappings.find? Mapping.isKeyboard).map Mapping.plain :=
    find?_isKeyboard_watchBut true true b.mappings
  rw [keyboard?, keyboard?, findSome?_eq_bind_find?, findSome?_eq_bind_find?]
  show (b.watch.mappings.find? Mapping.isKeyboard).bind _ = _
  rw [hfind, Option.bind_map]
  rfl

/-- A terminal does not notice that other devices are watched. -/
theorem Wired.watch (h : b.Wired ports d k) : b.watch.Wired ports d k :=
  ⟨h.disjoint.of_places (fun _ => rfl) (place_watchBut true true _), sized_watch h.sized,
    (ofBus?_watch b).trans h.ports_eq, (display?_watch b).trans h.display,
    (keyboard?_watch b).trans h.keyboard⟩

/-- What is watched and only sees cycles pass is not called. -/
theorem Passes.calls?_eq {text : String} {elapsed : Nat} {w : Bus (Watched δ)}
    (h : Passes elapsed text b.watch w) :
    ∀ n ∈ w.bystanders, n.device.calls? = some 0 := by
  rw [h.bystanders, bystanders_watch]
  intro n hn
  obtain ⟨_, hm, rfl⟩ := List.mem_map.mp hn
  obtain ⟨m, -, rfl⟩ := List.mem_map.mp hm
  exact Watched.calls?_tick_iterate elapsed (.watched m.device 0)

end Bus

end Lawful

end PolledTerminal
