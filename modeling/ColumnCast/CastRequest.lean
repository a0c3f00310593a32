import ColumnCast.CastError

/-!
# `ColumnCast.CastRequest`: what a column is cast to

A request names the semantic type of one column and the SQL expression of
its raw text. Text types take a limit on the number of characters, ratings
one on the number of stars; `checkLimit` refuses a limit that no column
can be declared with.
-/

set_option autoImplicit false

namespace ColumnCast

/-- The cast of one column. -/
structure CastRequest where
  type : SemanticType
  /-- The SQL expression of the raw text. -/
  source : String
  limit : Option UInt32 := none
  dateFormat : Option String := none
  options : List String := []
  deriving DecidableEq, Repr

namespace CastRequest

/-- A request for a type by its name. -/
def ofName (name source : String) : Except CastError CastRequest :=
  (SemanticType.ofName name).map fun type => { type, source }

/-- The date format that is meant where none is given. -/
def defaultDateFormat : String := "dmy"

/-- The identifier of the date format to be used. -/
def dateFormatId (request : CastRequest) : String := request.dateFormat.getD defaultDateFormat

/-- The number of characters of a text where no limit is given. -/
def defaultTextLimit : UInt32 := 255

/-- The greatest number of characters a text column is declared with. -/
def maxTextLimit : UInt32 := 10485760

/-- The number of characters a text may have. -/
def textLimit (request : CastRequest) : UInt32 := request.limit.getD defaultTextLimit

/-- The best rating where no limit is given. -/
def defaultRatingLimit : UInt32 := 5

/-- The best rating that an integer column holds. -/
def maxRatingLimit : UInt32 := 2147483647

/-- The best rating. -/
def ratingLimit (request : CastRequest) : UInt32 := request.limit.getD defaultRatingLimit

/-- Can a column of the type be declared with the limit? Types without a limit do not care. -/
def allowsLimit (type : SemanticType) (limit : UInt32) : Bool :=
  if type = .rating then limit ≤ maxRatingLimit
  else if type.category = .text then 1 ≤ limit && limit ≤ maxTextLimit
  else true

/-- Refuses a limit that no column can be declared with. -/
def checkLimit (request : CastRequest) : Except CastError Unit :=
  match request.limit with
  | none => .ok ()
  | some limit =>
    if allowsLimit request.type limit then .ok ()
    else .error (.invalidLimit request.type limit)

end CastRequest

end ColumnCast
