import Scaffold.Json.Reader
/-!
# Json.Document — values that come as bytes

A document is decoded first, in whichever encoding its first bytes show, and then read; positions are those of the
decoded text.  Containers may not lie deeper in each other than `maxDepth`.
-/
namespace Scaffold
namespace Json

/-- **Why a document was refused**: its bytes are no text, or the text is no value. -/
inductive DocumentError where
  | undecodable (e : Text.DecodeError)
  | unreadable (text : List Text.Sign) (e : ReadError)

namespace DocumentError

def message : DocumentError → String
  | .undecodable e => e.message
  | .unreadable text e => e.message text

end DocumentError

/-- How deep containers may lie in each other. -/
def maxDepth : Nat := 960

def ofBytes (bytes : List Nat) : Except DocumentError Json :=
  match Text.decode bytes with
  | .error e => .error (.undecodable e)
  | .ok text => (readWithin maxDepth text).mapError (.unreadable text)

end Json
end Scaffold
