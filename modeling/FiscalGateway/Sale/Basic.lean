import FiscalGateway.Number.Decimal
import FiscalGateway.Time.Rfc3339
import FiscalGateway.Uuid

/-!
# Sales

The receipt that a merchant registers. Each part has a name on the wire, the same in the JSON of a
client and in the message to the authority.
-/

namespace FiscalGateway

/-- The regime of taxation. -/
inductive Regime where
  | standard
  | simplified
  deriving DecidableEq, Repr, Inhabited

/-- The number of a regime on the wire. -/
def Regime.code : Regime → Nat
  | .standard => 0
  | .simplified => 1

/-- The regime of a number. -/
def Regime.ofCode? : Nat → Option Regime
  | 0 => some .standard
  | 1 => some .simplified
  | _ => none

/-- The amounts that a sale may break its total down into. -/
inductive AmountKind where
  /-- Exempt from value added tax. -/
  | exempt
  | baseStandard
  | taxStandard
  | baseFirstReduced
  | taxFirstReduced
  | baseSecondReduced
  | taxSecondReduced
  /-- Travel services. -/
  | travel
  | usedStandard
  | usedFirstReduced
  | usedSecondReduced
  /-- Paid in advance, to be drawn later. -/
  | prepaid
  /-- Drawn from what was paid in advance. -/
  | drawn
  deriving DecidableEq, Repr

namespace AmountKind

/-- Every kind, in the order of the wire. -/
def all : List AmountKind :=
  [.exempt, .baseStandard, .taxStandard, .baseFirstReduced, .taxFirstReduced, .baseSecondReduced,
    .taxSecondReduced, .travel, .usedStandard, .usedFirstReduced, .usedSecondReduced, .prepaid,
    .drawn]

/-- The name on the wire. -/
def wireName : AmountKind → String
  | .exempt => "zakl_nepodl_dph"
  | .baseStandard => "zakl_dan1"
  | .taxStandard => "dan1"
  | .baseFirstReduced => "zakl_dan2"
  | .taxFirstReduced => "dan2"
  | .baseSecondReduced => "zakl_dan3"
  | .taxSecondReduced => "dan3"
  | .travel => "cest_sluz"
  | .usedStandard => "pouzit_zboz1"
  | .usedFirstReduced => "pouzit_zboz2"
  | .usedSecondReduced => "pouzit_zboz3"
  | .prepaid => "urceno_cerp_zuct"
  | .drawn => "cerp_zuct"

theorem mem_all (k : AmountKind) : k ∈ all := by cases k <;> decide

end AmountKind

/-- A sale. -/
structure Sale where
  /-- Names the message; the answer repeats it. -/
  uuid : Uuid
  sentAt : Option Time.Timestamp
  /-- Whether this is the first attempt to register the sale. -/
  firstSending : Bool
  /-- Whether the message is only checked and not recorded. -/
  checkOnly : Option Bool
  taxId : String
  /-- The merchant on whose behalf the sale is made. -/
  delegateTaxId : Option String
  premises : Nat
  register : String
  serial : String
  soldAt : Option Time.Timestamp
  total : Number.Decimal
  amount : AmountKind → Option Number.Decimal
  regime : Regime
  /-- The signature of the merchant over the main parts. -/
  signatureCode : Option Octets
  /-- The fingerprint of the signature. -/
  fingerprintCode : Option String

namespace Sale

/-- The amounts that are set, the total first, with their names on the wire. -/
def amounts (s : Sale) : List (String × Number.Decimal) :=
  ("celk_trzba", s.total) :: AmountKind.all.filterMap fun k => (s.amount k).map (k.wireName, ·)

/-- Sets the times that are missing, in whole seconds. -/
def fillTimes (s : Sale) (now : Time.Timestamp) : Sale :=
  { s with
    sentAt := some (s.sentAt.getD now.truncate)
    soldAt := some (s.soldAt.getD now.truncate) }

end Sale

/-- An amount on the wire: two places, a half going to the even neighbour. -/
def Number.Decimal.wire (d : Decimal) : List Char :=
  let r := d.round 2
  (r.extend (2 - r.places)).write

/-- An amount on the wire. -/
def formatAmount (d : Number.Decimal) : String := String.ofList d.wire

/-- A time on the wire. -/
def formatTime (t : Time.Timestamp) : String := String.ofList t.writeSeconds

end FiscalGateway
