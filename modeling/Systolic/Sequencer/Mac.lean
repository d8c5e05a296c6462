import Systolic.Sequencer

namespace Systolic.Sequencer

/-- `y + x * weight` on the single element: the weight first, over the same input as `x` after it. The
element has settled by the time its result is read. -/
def mac (weight x y : Int32) : SequencerM Int32 := do
  let block ← require "MAC processing element" Profile.mac
  writeWord block.xIn weight.toUInt32
  writeWord block.control MacBlock.loadWeight
  writeWord block.control 0
  writeWord block.xIn x.toUInt32
  writeWord block.yIn y.toUInt32
  writeWord block.control MacBlock.valid
  writeWord block.control 0
  return (← readWord block.yOut).toInt32

end Systolic.Sequencer
