import Mathlib.Tactic

/-!
# Stream Deck models

The hardware models by USB vendor and product id, with the names under which the
dock announces them.
-/

namespace OpenNetDeck

def vendorIdElgato : UInt16 := 0x0fd9

def vendorIdCorsair : UInt16 := 0x1b1c

inductive StreamDeckModel where
  | original
  | originalV2
  | originalMK2
  | originalMK2Scissor
  | mini
  | xl
  | plus
  | pedal
  | neo
  | studio
  | module6
  | module15
  | module32
  | plusXL
  | galleonK100
  deriving DecidableEq, Repr

def StreamDeckModel.name : StreamDeckModel → String
  | .original => "Stream Deck"
  | .originalV2 => "Stream Deck (v2)"
  | .originalMK2 => "Stream Deck MK.2"
  | .originalMK2Scissor => "Stream Deck MK.2 (Scissor)"
  | .mini => "Stream Deck Mini"
  | .xl => "Stream Deck XL"
  | .plus => "Stream Deck +"
  | .pedal => "Stream Deck Pedal"
  | .neo => "Stream Deck Neo"
  | .studio => "Stream Deck Studio"
  | .module6 => "Stream Deck 6 Module"
  | .module15 => "Stream Deck 15 Module"
  | .module32 => "Stream Deck 32 Module"
  | .plusXL => "Stream Deck + XL"
  | .galleonK100 => "Corsair Galleon K100"

def isStreamdeckVendor (vendorId : UInt16) : Bool :=
  vendorId == vendorIdElgato || vendorId == vendorIdCorsair

def matchStreamdeckModel (vendorId productId : UInt16) : Option StreamDeckModel :=
  if vendorId = vendorIdElgato then
    if productId = 0x0060 then some .original
    else if productId = 0x006d then some .originalV2
    else if productId = 0x0080 then some .originalMK2
    else if productId = 0x00a5 then some .originalMK2Scissor
    else if productId = 0x0063 ∨ productId = 0x0090 ∨ productId = 0x00b3 then some .mini
    else if productId = 0x006c ∨ productId = 0x008f then some .xl
    else if productId = 0x0084 then some .plus
    else if productId = 0x0086 then some .pedal
    else if productId = 0x009a then some .neo
    else if productId = 0x00aa then some .studio
    else if productId = 0x00b8 then some .module6
    else if productId = 0x00b9 then some .module15
    else if productId = 0x00ba then some .module32
    else if productId = 0x00c6 then some .plusXL
    else none
  else if vendorId = vendorIdCorsair then
    if productId = 0x2b18 then some .galleonK100 else none
  else none

end OpenNetDeck
