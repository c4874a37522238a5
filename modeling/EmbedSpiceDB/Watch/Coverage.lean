import EmbedSpiceDB.Watch.Watcher

/-! # Watch targets of `FileWatcher.Start`

`Start` adds one fsnotify watch per configured absolute path: on the file itself when `os.Stat`
finds it, and on its directory otherwise. A watch on a directory reports every file in it, so a
path is covered while it or its directory is watched. Operations on the configured files change
no directory, but removing a watched file, or renaming another file over it as editors do on an
atomic save, drops the watch on that path.
-/

namespace EmbedSpiceDB.Watch

open Path FileWatcher

/-- What `Start` asks of the platform: whether `os.Stat` finds a path, and the error of
`watcher.Add` on a path, if any. -/
structure Platform where
  stat : String → Bool
  add : String → Option String

/-- The path `Start` watches for a configured path: the file when it exists, else its directory. -/
def watchTarget (platform : Platform) (absPath : String) : String :=
  if platform.stat absPath then absPath else dir absPath

/-- The loop of `Start` over the keys of `fw.absFiles`, in the order Go's map iteration gives them,
here the order of the list: the targets it adds, or its first error. -/
def addWatches (platform : Platform) : List String → Except String (List String)
  | [] => .ok []
  | absPath :: rest =>
    if platform.stat absPath then
      match platform.add absPath with
      | some err => .error s!"failed to watch file {absPath}: {err}"
      | none => (absPath :: ·) <$> addWatches platform rest
    else
      let dir := Path.dir absPath
      match platform.add dir with
      | some err => .error s!"failed to watch directory {dir}: {err}"
      | none => (dir :: ·) <$> addWatches platform rest

/-- An operation on a configured path. -/
inductive FsOp where
  /-- Write the file in place. -/
  | write (path : String)
  | create (path : String)
  | remove (path : String)
  /-- Rename another file over the path: an atomic save. -/
  | renameOver (path : String)
deriving DecidableEq, Repr

/-- The path whose watch an operation drops: the file it removes or replaces. -/
def FsOp.drops : FsOp → Option String
  | .remove path | .renameOver path => some path
  | .write _ | .create _ => none

/-- The active watches after one operation. -/
def applyOp (watches : List String) (op : FsOp) : List String :=
  match op.drops with
  | some path => watches.filter (· ≠ path)
  | none => watches

/-- The active watches after a sequence of operations. -/
def watchesAfter (watches : List String) (ops : List FsOp) : List String := ops.foldl applyOp watches

/-- A path is covered when a write to it reaches `watchLoop`: it or its directory is watched. -/
def Covered (watches : List String) (path : String) : Prop := path ∈ watches ∨ dir path ∈ watches

instance (watches : List String) : DecidablePred (Covered watches) := fun path => by
  unfold Covered; infer_instance

/-! ## Start -/

private theorem cons_map_eq_ok {head : String} {rest : Except String (List String)}
    {targets : List String} (ok : (head :: ·) <$> rest = .ok targets) :
    ∃ later, rest = .ok later ∧ targets = head :: later := by
  cases rest with
  | error => cases ok
  | ok later => exact ⟨later, rfl, by cases ok; rfl⟩

/-- A successful `Start` watches the target of each configured path, in order. -/
theorem addWatches_ok {platform : Platform} {absFiles targets : List String}
    (started : addWatches platform absFiles = .ok targets) :
    targets = absFiles.map (watchTarget platform) := by
  induction absFiles generalizing targets with
  | nil => simpa [addWatches, eq_comm] using started
  | cons absPath rest ih =>
    unfold addWatches at started
    split at started
    all_goals
      try dsimp only at started
      split at started
    all_goals first
      | cases started
      | obtain ⟨later, restStarted, rfl⟩ := cons_map_eq_ok started
        simp [watchTarget, ih restStarted, *]

/-! ## Operations -/

@[simp] theorem mem_applyOp {watches : List String} {op : FsOp} {target : String} :
    target ∈ applyOp watches op ↔ target ∈ watches ∧ op.drops ≠ some target := by
  cases drops : op.drops with
  | none => simp [applyOp, drops]
  | some path => simp [applyOp, drops, ne_comm]

theorem mem_watchesAfter {watches : List String} {ops : List FsOp} {target : String} :
    target ∈ watchesAfter watches ops ↔ target ∈ watches ∧ ∀ op ∈ ops, op.drops ≠ some target := by
  induction ops generalizing watches with
  | nil => simp [watchesAfter]
  | cons op rest ih =>
    simp only [watchesAfter, List.foldl_cons] at ih ⊢
    simp [ih, and_assoc]

/-- A path is covered while the file or its directory is watched and has not been dropped. -/
theorem covered_watchesAfter_iff {watches : List String} {ops : List FsOp} {path : String} :
    Covered (watchesAfter watches ops) path ↔
      ∃ target ∈ watches, (target = path ∨ target = dir path) ∧ ∀ op ∈ ops, op.drops ≠ some target := by
  simp only [Covered, mem_watchesAfter]
  constructor
  · rintro (⟨member, kept⟩ | ⟨member, kept⟩)
    · exact ⟨path, member, .inl rfl, kept⟩
    · exact ⟨dir path, member, .inr rfl, kept⟩
  · rintro ⟨target, member, rfl | rfl, kept⟩
    · exact .inl ⟨member, kept⟩
    · exact .inr ⟨member, kept⟩

/-- A path watched by itself, and whose directory is not watched, is covered exactly until an
operation removes or replaces it. -/
theorem covered_iff_not_dropped {targets : List String} {ops : List FsOp} {path : String}
    (watched : path ∈ targets) (dirUnwatched : dir path ∉ targets) :
    Covered (watchesAfter targets ops) path ↔ ∀ op ∈ ops, op.drops ≠ some path := by
  simp [Covered, mem_watchesAfter, watched, dirUnwatched]

/-- After a successful `Start`, which watches each configured file itself when `os.Stat` finds it
and its directory otherwise, and after any operations on the configured files, a configured path is
covered exactly while one of the targets `Start` added, for it or for another configured path, on
the file or on its directory, has not been removed or replaced. A path missing at `Start` is
covered by its directory until an operation removes or replaces that directory itself. A path
present at `Start`, whose directory `Start` does not watch for another configured path, is covered
exactly until its first remove or atomic save. -/
theorem covered_until_dropped (cwd : String) (files : List String) (platform : Platform)
    {targets : List String} (started : addWatches platform (start cwd files).absFiles = .ok targets)
    (ops : List FsOp) {path : String} (configured : path ∈ (start cwd files).absFiles) :
    targets = (start cwd files).absFiles.map (watchTarget platform) ∧
    (Covered (watchesAfter targets ops) path ↔
      ∃ target ∈ targets, (target = path ∨ target = dir path) ∧ ∀ op ∈ ops, op.drops ≠ some target) ∧
    (platform.stat path = false → (∀ op ∈ ops, op.drops ≠ some (dir path)) →
      Covered (watchesAfter targets ops) path) ∧
    (platform.stat path = true → dir path ∉ targets →
      (Covered (watchesAfter targets ops) path ↔ ∀ op ∈ ops, op.drops ≠ some path)) := by
  have targetsEq := addWatches_ok started
  have ownTarget : watchTarget platform path ∈ targets :=
    targetsEq ▸ List.mem_map_of_mem _ configured
  refine ⟨targetsEq, covered_watchesAfter_iff, fun missing kept => .inr ?_, fun present =>
    covered_iff_not_dropped (by simpa [watchTarget, present] using ownTarget)⟩
  rw [mem_watchesAfter]
  exact ⟨by simpa [watchTarget, missing] using ownTarget, kept⟩

/-- No path is present and every watch is accepted. -/
def allMissing : Platform := ⟨fun _ => false, fun _ => none⟩

/-- Every path is present and every watch is accepted. -/
def allPresent : Platform := ⟨fun _ => true, fun _ => none⟩

/-- A file missing at `Start` is watched through `/d`, and stays covered through its creation, an
atomic save and its removal; a file present at `Start` is watched by itself, covered through a
write and no longer after an atomic save. -/
theorem missing_file_stays_covered :
    (addWatches allMissing (start "/" ["/d/s.zed"]).absFiles = .ok ["/d"] ∧
      "/d/s.zed" ∈ (start "/" ["/d/s.zed"]).absFiles ∧
      Covered (watchesAfter ["/d"] [.create "/d/s.zed", .renameOver "/d/s.zed", .remove "/d/s.zed"])
        "/d/s.zed") ∧
    (addWatches allPresent (start "/" ["/d/s.zed"]).absFiles = .ok ["/d/s.zed"] ∧
      "/d/s.zed" ∈ (start "/" ["/d/s.zed"]).absFiles ∧
      (Covered (watchesAfter ["/d/s.zed"] [.write "/d/s.zed", .renameOver "/d/s.zed"]) "/d/s.zed" ↔
        ∀ op ∈ [FsOp.write "/d/s.zed", .renameOver "/d/s.zed"], op.drops ≠ some "/d/s.zed")) :=
  ⟨⟨rfl, by decide, (covered_until_dropped "/" ["/d/s.zed"] allMissing rfl
      [.create "/d/s.zed", .renameOver "/d/s.zed", .remove "/d/s.zed"] (by decide)).2.2.1 rfl (by decide)⟩,
    ⟨rfl, by decide, (covered_until_dropped "/" ["/d/s.zed"] allPresent rfl
      [.write "/d/s.zed", .renameOver "/d/s.zed"] (by decide)).2.2.2 rfl (by decide)⟩⟩

/-- One file present at `Start` is watched by itself; an atomic save over it drops that watch,
and no watch is left for its path. -/
theorem atomic_save_uncovers :
    addWatches allPresent (start "/" ["/s.zed"]).absFiles = .ok ["/s.zed"] ∧
      Covered ["/s.zed"] "/s.zed" ∧ ¬Covered (watchesAfter ["/s.zed"] [.renameOver "/s.zed"]) "/s.zed" :=
  ⟨rfl, by decide, by decide⟩

end EmbedSpiceDB.Watch
