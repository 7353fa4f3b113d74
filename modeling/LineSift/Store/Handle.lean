import LineSift.Store.Basic

/-!
# Reading from an open file

An open file is read in blocks: what has been read ahead stays as it was read, even if the file
changes.  Going to a position within it keeps it, and going anywhere else forgets it.
-/

namespace LineSift.Store

/-- A file that is open for reading. -/
structure Handle where
  /-- The file, which is kept even if it is moved. -/
  file : Nat
  /-- The path by which it was opened. -/
  name : Text
  /-- Where the block that was read ahead begins. -/
  base : Nat := 0
  /-- The block that was read ahead. -/
  block : Bytes := []
  /-- The position that is read next. -/
  pos : Nat := 0
  deriving DecidableEq

/-- The size of a block. -/
def blockSize : Nat := 4096

namespace Handle

/-- What has been read ahead and not been given out. -/
def ahead (h : Handle) : Bytes := if h.block = [] then [] else h.block.drop (h.pos - h.base)

/-- Reads at most `n` bytes: first what was read ahead, then whole blocks, and the rest from a block
that is read ahead. -/
def read (s : Store) (h : Handle) (n : Nat) : Bytes × Handle :=
  let before := h.ahead
  if n ≤ before.length then (before.take n, { h with pos := h.pos + n })
  else
    let stored := (s.file h.file).bytes.drop (h.pos + before.length)
    let missing := n - before.length
    let direct := stored.take (missing / blockSize * blockSize)
    let base := h.pos + before.length + direct.length
    let block := if direct.length < missing / blockSize * blockSize then []
      else if missing % blockSize = 0 then []
      else (stored.drop direct.length).take blockSize
    let last := block.take (missing % blockSize)
    (before ++ direct ++ last, { h with base, block, pos := base + last.length })

/-- Goes to a position. -/
def goTo (h : Handle) (pos : Nat) : Handle :=
  if h.ahead ≠ [] ∧ h.base ≤ pos ∧ pos ≤ h.base + h.block.length then { h with pos }
  else { h with base := 0, block := [], pos }

end Handle

end LineSift.Store
