import BulkStream.Capture.Recorder

/-!
Dumps that keep what is written to them. What a capture needs of its dump is that it holds, once
flushed, all that was written, in order; a file on a disk does, whatever of it is held back in the
buffer of its writer at a time.
-/
namespace BulkStream

namespace Storage

namespace Disk

/-- What the file at a path holds; nothing where there is no file. -/
def contentAt (d : Disk) (path : Path) : Bytes :=
  match d.lookup path with
  | some (.file data) => data.toBytes
  | _ => []

theorem contentAt_put (d : Disk) (path : Path) (data : Pieces) :
    (d.put path data).contentAt path = data.toBytes := by
  rw [contentAt, lookup, put, List.lookup_cons_self]

theorem append_file (d : Disk) (path : Path) (bytes : Bytes) :
    ∃ e, d.append (.file path) bytes = (.ok (), e) ∧
      e.contentAt path = d.contentAt path ++ bytes := by
  rw [append]
  split
  · rename_i data there
    refine ⟨_, rfl, ?_⟩
    rw [contentAt_put, Pieces.toBytes_push, contentAt, there]
  · rename_i elsewhere
    refine ⟨_, rfl, ?_⟩
    have nothing : d.contentAt path = [] := by
      rw [contentAt]
      split
      · rename_i data there
        exact absurd there (elsewhere data)
      · rfl
    rw [contentAt_put, Pieces.toBytes_ofBytes, nothing, List.nil_append]

theorem create_file {d e : Disk} {name : String} {path : Path}
    (h : d.create name = .ok (.file path, e)) : e.contentAt path = [] := by
  cases followed : d.follow name true with
  | error error =>
      rw [create, followed] at h
      cases h
  | ok place =>
      rw [create, followed] at h
      cases place with
      | directory | device device => cases h
      | file target data | vacant target =>
          cases h
          exact contentAt_put d path .empty

end Disk

namespace Writer

/-- A writer to a file, and all that it was given: what the file holds and what has gathered. -/
def Holds (path : Path) (w : Writer) (d : Disk) (written : Bytes) : Prop :=
  w.target = .file path ∧ d.contentAt path ++ w.gathered.toList = written

variable {path : Path} {w : Writer} {d : Disk} {written : Bytes}

theorem Holds.flush (h : w.Holds path d written) :
    ∃ v e, w.flush d = (.ok (), v, e) ∧ v.Holds path e written ∧ v.gathered = #[] := by
  obtain ⟨target, rfl⟩ := h
  rw [Writer.flush]
  split
  · rename_i nothing
    exact ⟨w, d, rfl, ⟨target, rfl⟩, by simpa using nothing⟩
  · obtain ⟨e, appended, content⟩ := d.append_file path w.gathered.toList
    rw [target, appended]
    refine ⟨_, _, rfl, ⟨rfl, ?_⟩, rfl⟩
    rw [content, List.append_nil]

/-- Bytes that go past the buffer must not overtake what has gathered. -/
theorem Holds.place (h : w.Holds path d written) {bytes : Bytes}
    (behind : bufferCapacity ≤ bytes.length → w.gathered = #[]) :
    ∃ v e, w.place bytes d = (.ok (), v, e) ∧ v.Holds path e (written ++ bytes) := by
  obtain ⟨target, rfl⟩ := h
  rw [Writer.place]
  split
  · rename_i whole
    obtain ⟨e, appended, content⟩ := d.append_file path bytes
    rw [target, appended]
    refine ⟨_, _, rfl, target, ?_⟩
    rw [content, behind whole, List.append_nil, List.append_nil]
  · refine ⟨_, _, rfl, target, ?_⟩
    rw [Array.toList_appendList, List.append_assoc]

theorem Holds.write (h : w.Holds path d written) (bytes : Bytes) :
    ∃ v e, w.write bytes d = (.ok (), v, e) ∧ v.Holds path e (written ++ bytes) := by
  rw [Writer.write]
  split
  · rename_i room
    have positive : 0 < bufferCapacity := by decide
    exact h.place fun whole => Array.eq_empty_of_size_eq_zero (by omega)
  · obtain ⟨v, e, flushed, holds, nothing⟩ := h.flush
    rw [flushed]
    exact holds.place fun _ => nothing

end Writer

end Storage

namespace Capture

open Storage

/-- What is assumed of a dump: it keeps exactly the bytes written to it. -/
structure Keeping {δ : Type} (file : DumpFile δ) where
  /-- What the file itself holds. -/
  content : δ → Bytes
  /-- All that was written so far, what is held back included. -/
  Wrote : δ → Bytes → Prop
  write {dump dump' : δ} {written : Bytes} (bytes : Bytes) (h : Wrote dump written)
    (done : file.write bytes dump = (.ok (), dump')) : Wrote dump' (written ++ bytes)
  flush {dump dump' : δ} {written : Bytes} (h : Wrote dump written)
    (done : file.flush dump = (.ok (), dump')) : content dump' = written

/-- A dump on which no operation fails. -/
structure Keeping.Faultless {δ : Type} {file : DumpFile δ} (keeping : Keeping file) : Prop where
  write {dump : δ} {written : Bytes} (bytes : Bytes) (h : keeping.Wrote dump written) :
    (file.write bytes dump).1 = .ok ()
  flush {dump : δ} {written : Bytes} (h : keeping.Wrote dump written) :
    (file.flush dump).1 = .ok ()

namespace OpenDump

/-- A dump written to a file through a buffer, and all that was written to it. -/
def Wrote (path : Path) (dump : OpenDump) (written : Bytes) : Prop :=
  ∃ writer, dump.handle = .output writer ∧ writer.Holds path dump.disk written

variable {path : Path} {dump : OpenDump} {written : Bytes}

theorem Wrote.write (h : dump.Wrote path written) (bytes : Bytes) :
    ∃ next, operations.write bytes dump = (.ok (), next) ∧ next.Wrote path (written ++ bytes) := by
  obtain ⟨writer, opened, holds⟩ := h
  obtain ⟨later, disk, wrote, now⟩ := holds.write bytes
  refine ⟨⟨disk, .output later⟩, ?_, later, rfl, now⟩
  simp only [operations, onWriter, opened, wrote]

theorem Wrote.flush (h : dump.Wrote path written) :
    ∃ next, operations.flush dump = (.ok (), next) ∧ next.disk.contentAt path = written := by
  obtain ⟨writer, opened, holds⟩ := h
  obtain ⟨later, disk, flushed, now, nothing⟩ := holds.flush
  refine ⟨⟨disk, .output later⟩, ?_, ?_⟩
  · simp only [operations, onWriter, opened, flushed]
  · rw [← now.2, nothing, List.append_nil]

def keeping (path : Path) : Keeping operations where
  content dump := dump.disk.contentAt path
  Wrote dump written := dump.Wrote path written
  write bytes h done := by
    obtain ⟨next, wrote, now⟩ := h.write bytes
    rw [wrote] at done
    cases done
    exact now
  flush h done := by
    obtain ⟨next, flushed, now⟩ := h.flush
    rw [flushed] at done
    cases done
    exact now

theorem keeping_faultless (path : Path) : (keeping path).Faultless where
  write bytes h := by
    obtain ⟨next, wrote, -⟩ := h.write bytes
    rw [wrote]
  flush h := by
    obtain ⟨next, flushed, -⟩ := h.flush
    rw [flushed]

end OpenDump

/-- A dump that has just been opened for output has nothing written to it. -/
theorem openDump_wrote {o : Settings.CaptureOptions} {disk : Disk} {dump : OpenDump}
    (opened : openDump o disk = .ok dump) {writer : Writer} {path : Path}
    (handle : dump.handle = .output writer) (target : writer.target = .file path) :
    dump.Wrote path [] := by
  rw [openDump] at opened
  split at opened
  · cases opened
    cases handle
  · rename_i name named
    split at opened
    · split at opened
      · cases opened
        cases handle
      · cases opened
    · split at opened
      · rename_i place created made
        cases opened
        cases handle
        cases target
        exact ⟨_, rfl, rfl, by rw [Disk.create_file made]; rfl⟩
      · cases opened

end Capture

end BulkStream
