import Mathlib.Data.List.Infix
import Collate.Storage.Code

/-!
# What writing a file does to reading

A name that can be written to is that of a file in a directory that exists: whatever stands above it
is a directory, and it is none itself (`Files.writable_of_target`). Putting bytes under such a name
changes what stands there and nothing else (`Files.node?_put_of_ne`), so every path is walked as
before. A path that leads to the file reads its new bytes, and any other reads what it did
(`Files.read_put`).

A reader can tell one obstacle from the others only, a name that is too long. That a step on the way
has become a file where there was nothing is one it cannot tell (`Files.seen`).
-/

namespace Collate.Storage

namespace Files

/-! ## Names that can be written to -/

/-- Steps to a file that is there or can be: everything above is a directory, and no directory
stands there. -/
structure Writable (fs : Files) (steps : List Text) : Prop where
  /-- No directory stands there. -/
  free : fs.node? steps ≠ some .directory
  /-- Everything above is a directory. -/
  above : ∀ p, p <+: steps → p ≠ steps → fs.node? p = some .directory

/-- Steps taken, the last one first, with nothing but directories on the way and at the end. -/
def AreDirectories (fs : Files) (done : List Text) : Prop :=
  ∀ p, p <+: done.reverse → fs.node? p = some .directory

section walk

variable {fs : Files} {done rest : List Text} {p : Path}

/-- The way to the working directory consists of directories. -/
theorem node?_of_prefix_place {steps : List Text} (h : steps <+: fs.place) :
    fs.node? steps = some .directory := by
  rw [node?, if_pos (List.isPrefixOf_iff_prefix.2 h)]

/-- The root is a directory. -/
theorem areDirectories_nil : fs.AreDirectories [] := by
  intro p hp
  rw [List.prefix_nil.1 hp]
  exact node?_of_prefix_place List.nil_prefix

/-- The working directory is a directory, and so is everything above it. -/
theorem areDirectories_place : fs.AreDirectories fs.place.reverse := by
  intro p hp
  rw [List.reverse_reverse] at hp
  exact node?_of_prefix_place hp

/-- What stands above a directory is one. -/
theorem AreDirectories.tail (h : fs.AreDirectories done) : fs.AreDirectories done.tail := by
  intro p hp
  refine h p (hp.trans ?_)
  cases done with
  | nil => exact List.prefix_rfl
  | cons step done =>
    rw [List.tail_cons, List.reverse_cons]
    exact List.prefix_append _ _

/-- A directory below directories. -/
theorem AreDirectories.cons {step : Text} (h : fs.AreDirectories done)
    (hstep : fs.node? (step :: done).reverse = some .directory) :
    fs.AreDirectories (step :: done) := by
  intro p hp
  rw [List.reverse_cons, List.prefix_concat_iff] at hp
  rcases hp with rfl | hp
  · rwa [List.reverse_cons] at hstep
  · exact h p hp

/-- **Where steps can be walked, there are directories.** -/
theorem areDirectories_of_enter (h : fs.AreDirectories done) {last : List Text}
    (hlast : fs.enter done rest = .ok last) : fs.AreDirectories last := by
  induction rest generalizing done with
  | nil =>
    rw [enter] at hlast
    cases hlast
    exact h
  | cons step rest ih =>
    rw [enter] at hlast
    split_ifs at hlast with hhere hup hlong
    · exact ih h hlast
    · exact ih h.tail hlast
    · split at hlast
      · rename_i hstep
        exact ih (h.cons hstep) hlast
      · cases hlast
      · cases hlast

/-- Walking along a text goes to the directory of its last step. -/
theorem walk_eq (fromRoot : Bool) (steps : List Text) :
    ∃ last : Option Text, ∀ fs : Files, fs.walk fromRoot steps =
      (fs.enter (if fromRoot then [] else fs.place.reverse) steps.dropLast).map
        fun parent => (parent, last) := by
  cases hlast : steps.getLast? with
  | none =>
    refine ⟨none, fun fs => ?_⟩
    unfold walk
    rw [hlast]
    cases fs.enter _ steps.dropLast <;> rfl
  | some step =>
    refine ⟨if step = Path.here ∨ step = Path.up then none else some step, fun fs => ?_⟩
    unfold walk
    rw [hlast]
    cases fs.enter _ steps.dropLast with
    | error o => rfl
    | ok parent =>
      simp only [bind, Except.bind, Except.map, pure, Except.pure]
      split_ifs <;> rfl

/-- The directory that a walk ends in is one. -/
theorem areDirectories_of_walk {fromRoot : Bool} {steps parent : List Text} {last : Option Text}
    (h : fs.walk fromRoot steps = .ok (parent, last)) : fs.AreDirectories parent := by
  obtain ⟨step, hwalk⟩ := walk_eq fromRoot steps
  rw [hwalk fs] at h
  cases henter : fs.enter (if fromRoot then [] else fs.place.reverse) steps.dropLast with
  | error o =>
    rw [henter] at h
    cases h
  | ok parent' =>
    rw [henter] at h
    cases h
    refine areDirectories_of_enter ?_ henter
    split
    · exact areDirectories_nil
    · exact areDirectories_place

/-- **A name that can be written to is that of a file in a directory.** -/
theorem writable_of_target {name : Text} {steps : List Text} (h : fs.target name = .ok steps) :
    fs.Writable steps := by
  unfold target at h
  simp only [bind, Except.bind, pure, Except.pure, throw, throwThe, MonadExceptOf.throw] at h
  split at h
  · cases h
  split at h
  · cases h
  cases hwalk : fs.walk (name.head? == some '/') (Path.stepsOf name) with
  | error o =>
    rw [hwalk] at h
    cases h
  | ok found =>
    obtain ⟨parent, last⟩ := found
    rw [hwalk] at h
    have hparent := areDirectories_of_walk hwalk
    cases last with
    | none => cases h
    | some step =>
      dsimp only at h
      split at h
      · cases h
      split at h
      · cases h
      split at h
      · cases h
      rename_i hfree
      cases h
      refine ⟨hfree, fun p hp hne => ?_⟩
      rw [List.reverse_cons, List.prefix_concat_iff] at hp
      rw [List.reverse_cons] at hne
      exact hparent p (hp.resolve_left hne)

/-- So is one that is opened for writing. -/
theorem writable_of_forWriting {name : Text} {steps : List Text}
    (h : fs.forWriting name = .ok steps) : fs.Writable steps := by
  unfold forWriting at h
  split at h
  · cases h
  · cases htarget : fs.target name with
    | error o =>
      rw [htarget] at h
      cases h
    | ok found =>
      rw [htarget] at h
      cases h
      exact writable_of_target htarget

end walk

/-! ## Nodes after writing -/

/-- The names in use after writing are those before it and the one that was written. -/
theorem any_putEntry (steps : List Text) (bytes : List UInt8) (q : List Text → Bool)
    (es : List (List Text × Node)) :
    (putEntry steps bytes es).any (fun e => q e.1) = (q steps || es.any fun e => q e.1) := by
  induction es with
  | nil => simp [putEntry]
  | cons e es ih =>
    rw [putEntry]
    split
    · rename_i heq
      rw [List.any_cons, List.any_cons, heq, Bool.or_self_left]
    · rw [List.any_cons, List.any_cons, ih, Bool.or_left_comm]

section put

variable {fs : Files} {steps other : List Text}

/-- A file is there once it is written. -/
theorem node?_put_self (h : fs.Writable steps) (bytes : List UInt8) :
    (fs.put steps bytes).node? steps = some (.file bytes) := by
  have hplace : ¬ steps.isPrefixOf fs.place = true := fun hprefix =>
    h.free (node?_of_prefix_place (List.isPrefixOf_iff_prefix.1 hprefix))
  rw [node?, lookup_put_self]
  exact if_neg hplace

/-- **Writing a file changes what stands there and nothing else.** -/
theorem node?_put_of_ne (h : fs.Writable steps) (hne : other ≠ steps) (bytes : List UInt8) :
    (fs.put steps bytes).node? other = fs.node? other := by
  by_cases hprefix : other <+: steps
  · -- above the file there is a directory, and there still is
    have hdirectory := h.above other hprefix hne
    rw [hdirectory]
    unfold node? at hdirectory ⊢
    rw [lookup_put_of_ne fs bytes hne]
    by_cases hplace : other.isPrefixOf fs.place = true
    · exact if_pos hplace
    · rw [if_neg hplace] at hdirectory
      refine (if_neg hplace).trans ?_
      cases hlookup : fs.entries.lookup other with
      | some n =>
        rw [hlookup] at hdirectory
        exact hdirectory
      | none =>
        refine if_pos ?_
        exact (any_putEntry steps bytes (other.isPrefixOf ·) fs.entries).trans
          (by rw [List.isPrefixOf_iff_prefix.2 hprefix, Bool.true_or])
  · have hany : (putEntry steps bytes fs.entries).any (fun e => other.isPrefixOf e.1) =
        fs.entries.any fun e => other.isPrefixOf e.1 := by
      have hfalse : other.isPrefixOf steps = false := by
        rw [← Bool.not_eq_true, List.isPrefixOf_iff_prefix]
        exact hprefix
      rw [any_putEntry steps bytes (other.isPrefixOf ·), hfalse, Bool.false_or]
    have hlookup := lookup_put_of_ne fs bytes hne
    have hplace : (fs.put steps bytes).place = fs.place := rfl
    have hentries : (fs.put steps bytes).entries = putEntry steps bytes fs.entries := rfl
    rw [node?, node?, hlookup, hplace, hentries, hany]

/-- A name that can be written to still can be when it has been. -/
theorem Writable.put (h : fs.Writable steps) (bytes : List UInt8) :
    (fs.put steps bytes).Writable steps := by
  constructor
  · rw [node?_put_self h bytes]
    exact fun heq => nomatch heq
  · intro p hp hne
    rw [node?_put_of_ne h hne]
    exact h.above p hp hne

end put

/-! ## Reading after writing -/

/-- What a reader can tell of a step that may be blocked: of an obstacle, whether it is that a name
is too long. -/
def seen {α : Type} (x : Except Obstacle α) : Except Bool α :=
  x.mapError fun o => decide (o = .tooLong)

/-- The steps that a path leads to, unless it ends in a directory by its form. -/
def leadsTo? (fs : Files) (p : Path) : Option (List Text) :=
  match fs.walk p.isAbsolute p.steps with
  | .ok (parent, some step) => some (step :: parent).reverse
  | _ => none

section read

variable {fs : Files} {steps : List Text} {bytes : List UInt8} {p : Path}

/-- A success is seen as such. -/
theorem seen_eq_ok_iff {α : Type} {x : Except Obstacle α} {a : α} : seen x = .ok a ↔ x = .ok a := by
  cases x <;> simp [seen, Except.mapError]

/-- What is seen of what comes of a step. -/
theorem seen_map {α β : Type} (g : α → β) (x : Except Obstacle α) :
    seen (x.map g) = (seen x).map g := by
  cases x <;> rfl

/-- A reader cannot tell whether a file has been written from where steps lead. -/
theorem seen_enter_put (h : fs.Writable steps) (bytes : List UInt8) (done rest : List Text) :
    seen ((fs.put steps bytes).enter done rest) = seen (fs.enter done rest) := by
  induction rest generalizing done with
  | nil => rw [enter, enter]
  | cons step rest ih =>
    rw [enter, enter]
    split_ifs
    · exact ih done
    · exact ih done.tail
    · rfl
    · by_cases heq : (step :: done).reverse = steps
      · rw [heq, node?_put_self h]
        cases hnode : fs.node? steps with
        | none => rfl
        | some n =>
          cases n with
          | file _ => rfl
          | directory => exact absurd hnode h.free
      · rw [node?_put_of_ne h heq]
        cases fs.node? (step :: done).reverse with
        | none => rfl
        | some n =>
          cases n with
          | file _ => rfl
          | directory => exact ih (step :: done)

/-- Nor from where a text leads. -/
theorem seen_walk_put (h : fs.Writable steps) (bytes : List UInt8) (fromRoot : Bool)
    (walked : List Text) :
    seen ((fs.put steps bytes).walk fromRoot walked) = seen (fs.walk fromRoot walked) := by
  obtain ⟨last, hwalk⟩ := walk_eq fromRoot walked
  rw [hwalk, hwalk, seen_map, seen_map, seen_enter_put h]
  rfl

/-- Paths lead where they did. -/
theorem leadsTo?_put (h : fs.Writable steps) (bytes : List UInt8) (p : Path) :
    (fs.put steps bytes).leadsTo? p = fs.leadsTo? p := by
  have hseen := seen_walk_put h bytes p.isAbsolute p.steps
  unfold leadsTo?
  cases hwalk : fs.walk p.isAbsolute p.steps with
  | ok found =>
    rw [hwalk] at hseen
    rw [seen_eq_ok_iff.1 hseen]
  | error o =>
    cases hwalk' : (fs.put steps bytes).walk p.isAbsolute p.steps with
    | ok found =>
      rw [hwalk', seen_eq_ok_iff.2 rfl] at hseen
      rw [seen_eq_ok_iff.1 hseen.symm] at hwalk
      cases hwalk
    | error o' => rfl

/-- What stands where a walk has led. -/
def standing (fs : Files) : List Text × Option Text → Except Obstacle Node
  | (_, none) => .ok .directory
  | (parent, some step) =>
    if isLonger step longestStep then .error .tooLong
    else
      match fs.node? (step :: parent).reverse with
      | some n => .ok n
      | none => .error .missing

/-- A path that is not too long is found by walking along it. -/
theorem find_eq (fs : Files) (p : Path) :
    fs.find p =
      if isLonger p.written longestPath then .error .tooLong
      else fs.walk p.isAbsolute p.steps >>= fs.standing := by
  unfold find
  by_cases hlong : isLonger p.written longestPath = true
  · rw [if_pos hlong, if_pos hlong]
    rfl
  · rw [if_neg hlong, if_neg hlong]
    cases fs.walk p.isAbsolute p.steps with
    | error o => rfl
    | ok found =>
      obtain ⟨parent, last⟩ := found
      cases last with
      | none => rfl
      | some step =>
        by_cases hstep : isLonger step longestStep = true
        · simp [standing, hstep, bind, Except.bind, throw, throwThe, MonadExceptOf.throw]
        · simp only [standing, hstep, bind, Except.bind, pure, Except.pure, Bool.false_eq_true,
            if_false]
          cases fs.node? (step :: parent).reverse <;> rfl

/-- A path that leads elsewhere is found to be what it was, as far as a reader sees. One that leads
to the file is found to be the file, if it was found to be anything. -/
theorem find_put (h : fs.Writable steps) (bytes : List UInt8) (p : Path) :
    (fs.leadsTo? p ≠ some steps → seen ((fs.put steps bytes).find p) = seen (fs.find p)) ∧
    (fs.leadsTo? p = some steps → ∀ n, fs.find p = .ok n →
      (fs.put steps bytes).find p = .ok (.file bytes)) := by
  have hseen := seen_walk_put h bytes p.isAbsolute p.steps
  rw [find_eq, find_eq]
  by_cases hlong : isLonger p.written longestPath = true
  · rw [if_pos hlong, if_pos hlong]
    exact ⟨fun _ => rfl, fun _ n hn => nomatch hn⟩
  rw [if_neg hlong, if_neg hlong]
  unfold leadsTo?
  cases hwalk : fs.walk p.isAbsolute p.steps with
  | error o =>
    refine ⟨fun _ => ?_, fun heq => nomatch heq⟩
    cases hwalk' : (fs.put steps bytes).walk p.isAbsolute p.steps with
    | ok found =>
      rw [hwalk, hwalk'] at hseen
      cases hseen
    | error o' =>
      rw [hwalk, hwalk'] at hseen
      exact congrArg Except.error (Except.error.inj hseen)
  | ok found =>
    rw [hwalk] at hseen
    rw [seen_eq_ok_iff.1 hseen]
    obtain ⟨parent, last⟩ := found
    cases last with
    | none => exact ⟨fun _ => rfl, fun heq => nomatch heq⟩
    | some step =>
      refine ⟨fun hne => ?_, fun heq n hn => ?_⟩
      · show seen ((fs.put steps bytes).standing (parent, some step)) = _
        rw [standing, node?_put_of_ne h fun heq => hne (congrArg some heq)]
        rfl
      · change fs.standing (parent, some step) = _ at hn
        show (fs.put steps bytes).standing (parent, some step) = _
        rw [standing] at hn ⊢
        rw [Option.some.inj heq, node?_put_self h]
        split_ifs at hn ⊢
        rfl

/-- **Reading after writing.** A path that leads elsewhere reads what it did, and one that leads to
the file reads its new bytes, if it could be read before. -/
theorem read_put (h : fs.Writable steps) (bytes : List UInt8) (p : Path) :
    (fs.leadsTo? p ≠ some steps → (fs.put steps bytes).read p = fs.read p) ∧
    (fs.leadsTo? p = some steps → ∀ old, fs.read p = .ok old →
      (fs.put steps bytes).read p = .ok bytes) := by
  obtain ⟨helse, hself⟩ := find_put h bytes p
  unfold read
  refine ⟨fun hne => ?_, fun heq old hold => ?_⟩
  · have hseen := helse hne
    split
    · rfl
    · cases hfind : fs.find p with
      | ok n =>
        rw [hfind] at hseen
        rw [seen_eq_ok_iff.1 hseen]
      | error o =>
        rw [hfind] at hseen
        cases hfind' : (fs.put steps bytes).find p with
        | ok n =>
          rw [hfind'] at hseen
          cases hseen
        | error o' =>
          rw [hfind'] at hseen
          have hlong : o' = .tooLong ↔ o = .tooLong :=
            decide_eq_decide.1 (Except.error.inj hseen)
          by_cases ho : o = .tooLong
          · rw [ho, hlong.2 ho]
          · have ho' : o' ≠ .tooLong := mt hlong.1 ho
            cases o <;> cases o' <;> first | rfl | contradiction
  · split at hold
    · cases hold
    · rename_i hnull
      rw [if_neg hnull]
      cases hfind : fs.find p with
      | error o =>
        rw [hfind] at hold
        cases o <;> cases hold
      | ok n => rw [hself heq n hfind]

/-- An empty file holds the empty code. -/
theorem codeOfBytes_nil : codeOfBytes [] = .ok [] := by
  have hnone : Text.Utf8.dropMarkBytes [] = [] := rfl
  rw [codeOfBytes, hnone, Text.Utf8.decode, Text.Utf8.decodeFrom]
  rfl

/-- Reading a code after a file has been emptied: one from elsewhere is what it was, and one from
the file is empty, if it could be read before. -/
theorem readCode_put (h : fs.Writable steps) (name : Text) :
    (∀ bytes, fs.leadsTo? (Path.ofText name) ≠ some steps →
      readCode (fs.put steps bytes) name = readCode fs name) ∧
    (fs.leadsTo? (Path.ofText name) = some steps → ∀ code, readCode fs name = .ok code →
      readCode (fs.put steps []) name = .ok []) := by
  unfold readCode
  dsimp only
  refine ⟨fun bytes hne => ?_, fun heq code hcode => ?_⟩
  · rw [(read_put h bytes _).1 hne]
  · cases hread : fs.read (Path.ofText name) with
    | error f =>
      simp only [hread] at hcode
      cases hcode
    | ok old =>
      rw [(read_put h [] _).2 heq old hread]
      dsimp only
      rw [codeOfBytes_nil]
      rfl

end read

/-! ## Files that differ in one place -/

/-- Files that come from others by writing under one name. -/
structure DiffersAt (steps : List Text) (fs fs' : Files) : Prop where
  /-- Nothing else has changed. -/
  lookup_eq : ∀ other, other ≠ steps → fs'.entries.lookup other = fs.entries.lookup other
  /-- Paths lead where they did. -/
  leadsTo?_eq : ∀ p, fs'.leadsTo? p = fs.leadsTo? p
  /-- Codes from elsewhere are what they were. -/
  readCode_eq : ∀ name, fs.leadsTo? (Path.ofText name) ≠ some steps →
    readCode fs' name = readCode fs name
  /-- The name can be written to. -/
  writable : fs'.Writable steps

section differsAt

variable {fs fs' fs'' : Files} {steps : List Text}

theorem differsAt_refl (h : fs.Writable steps) : DiffersAt steps fs fs :=
  ⟨fun _ _ => rfl, fun _ => rfl, fun _ _ => rfl, h⟩

/-- Writing again under the name. -/
theorem DiffersAt.put (h : DiffersAt steps fs fs') (bytes : List UInt8) :
    DiffersAt steps fs (fs'.put steps bytes) where
  lookup_eq other hne := (lookup_put_of_ne fs' bytes hne).trans (h.lookup_eq other hne)
  leadsTo?_eq p := (leadsTo?_put h.writable bytes p).trans (h.leadsTo?_eq p)
  readCode_eq name hne := by
    rw [(readCode_put h.writable name).1 bytes (by rwa [h.leadsTo?_eq]), h.readCode_eq name hne]
  writable := h.writable.put bytes

end differsAt

end Files

end Collate.Storage
