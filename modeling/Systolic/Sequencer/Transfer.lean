import Systolic.Sequencer

namespace Systolic

/-- A run of the DMA engine inside the control block: both its halves, in words of 32 bits, and the
rows that the array is to see pass. -/
structure Transfer where
  source : UInt32
  readWords : UInt32
  sink : UInt32
  writeWords : UInt32
  rows : UInt32
deriving DecidableEq

namespace Transfer

/-- The words that go in and come out for a number of rows: two and eight to each. -/
def wordsFor (rows : UInt32) : Except Failure (UInt32 × UInt32) :=
  if 8 * rows.toNat < UInt32.size then .ok (2 * rows, 8 * rows)
  else .error (.invalidArgument (.tooManyRows rows.toNat))

def forRows (source sink rows : UInt32) : Except Failure Transfer := do
  let (readWords, writeWords) ← wordsFor rows
  return ⟨source, readWords, sink, writeWords, rows⟩

/-- A transfer must have rows, the right number of words for them, and no more results than the length
field of the write control holds. -/
def check (t : Transfer) : Except Failure Unit := do
  if t.rows = 0 then throw (.invalidArgument .noRows)
  let words ← wordsFor t.rows
  unless words = (t.readWords, t.writeWords) do
    throw (.invalidArgument (.wordsForRows t.rows.toNat))
  if IntegratedDma.lengthMask < t.writeWords then
    throw (.invalidArgument (.longDrain t.writeWords.toNat))

end Transfer

namespace Sequencer

/-- Runs a transfer and waits for both halves. The write control, which starts them, comes after all
that they go by. -/
def runIntegrated (t : Transfer) : SequencerM WaitReport := do
  let dma ← require "integrated DMA" Profile.integrated
  t.check
  let block := (← get).profile.block
  match block.rowCount with
  | some rows => writeWord rows t.rows
  | none => pure ()
  writeWord dma.readAddress t.source
  writeWord dma.readLength t.readWords
  writeWord dma.writeAddress t.sink
  command block.execute
  writeWord dma.writeControl
    (IntegratedDma.startWrite ||| IntegratedDma.startRead ||| t.writeWords)
  let outcome ← pollWord block.status fun value =>
    value &&& IntegratedDma.doneMask == IntegratedDma.doneMask
  return ⟨.execute, [⟨.dma .integrated, outcome⟩]⟩

end Sequencer

end Systolic
