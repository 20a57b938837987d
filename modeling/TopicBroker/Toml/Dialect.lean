/-!
# Dialects of the document format

There are two versions of the document format, and a settings text is read
under one of them.  The later version accepts more: two further escapes, tables in
braces that extend over several lines, and times of day without seconds.  The
readers of the two versions also differ in a few points that the format leaves
to them, namely how deep values may be nested, what becomes of line ends inside
quoted texts and of a negative float beyond the range of floats, and whether dotted
keys may add to a table that the headers of others have only passed.
-/

namespace TopicBroker.Toml

/-- What the reader of a document has to know about its version. -/
structure Dialect where
  /-- Whether a character may be escaped by two hexadecimal digits, and the escape character by a
  letter. -/
  shortEscapes : Bool
  /-- Whether comments and line ends may stand in a table in braces, and a comma at its end. -/
  bracesSpanLines : Bool
  /-- Whether a time of day may leave out its seconds. -/
  secondsOptional : Bool
  /-- Whether a line end inside a quoted text is kept as it is written; otherwise it becomes a line
  feed. -/
  keepsLineEnds : Bool
  /-- Whether a negative float beyond the range of floats is read as infinite. -/
  negativeOverflow : Bool
  /-- Whether dotted keys may add to a table that was passed on the way to the header of another
  one, which makes it one of their own. -/
  claimsPassed : Bool
  /-- The deepest that lists and tables may be nested, and the most keys with dots between them. -/
  nestingLimit : Nat

namespace Dialect

/-- The first version of the format. -/
def first : Dialect where
  shortEscapes := false
  bracesSpanLines := false
  secondsOptional := false
  keepsLineEnds := false
  negativeOverflow := true
  claimsPassed := false
  nestingLimit := 79

/-- The later version of the format. -/
def later : Dialect where
  shortEscapes := true
  bracesSpanLines := true
  secondsOptional := true
  keepsLineEnds := true
  negativeOverflow := false
  claimsPassed := true
  nestingLimit := 80

end Dialect

end TopicBroker.Toml
