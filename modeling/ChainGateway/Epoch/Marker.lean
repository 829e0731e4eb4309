import ChainGateway.Model.Atom

/-!
# Epoch markers

The most recent epoch and when its validation ceremony is due.
-/

namespace ChainGateway.Epoch

open Json

structure Marker where
  epoch : UInt64
  validationTime : Timestamp
  deriving DecidableEq, Inhabited, Repr

def Marker.codec : Codec Marker :=
  .record
    (.field (.named "epoch" Codec.word64) <|
    .field (.named "validationTime" Timestamp.codec) .done)
    (fun m => (m.epoch, m.validationTime, ())) (fun (epoch, time, ()) => ⟨epoch, time⟩)

end ChainGateway.Epoch
