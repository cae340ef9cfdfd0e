/-!
# Yaml/Token — the words of a text, and what can be wrong with it
-/

namespace TensorGraph.Yaml

/-- What a token is. -/
inductive Lexeme where
  | version (major minor : Nat)
  | tagHandle (handle replacement : String)
  | documentStart | documentEnd
  | blockSequenceStart | blockMappingStart | blockEnd
  | flowSequenceStart | flowSequenceEnd
  | flowMappingStart | flowMappingEnd
  | blockEntry | flowEntry | key | value
  | reference (name : String)
  | anchor (name : String)
  | tag (handle suffix : String)
  | scalar (text : String) (quoted : Bool)
  | streamEnd
  deriving DecidableEq, Repr

/-- A lexeme with the line it starts on.  An undecided token can still turn out to begin a key. -/
structure Token where
  lexeme : Lexeme
  line : Nat
  undecided : Bool := false
  deriving DecidableEq, Repr

/-- Why a text is no document. -/
inductive SyntaxFault where
  | character
  | tokenStart
  | tabIndent
  | missingColon
  | entryPlace | keyPlace | valuePlace
  | tooDeep
  | directive
  | anchorName
  | tagText
  | quotedEnd
  | escape
  | blockHeader
  | documentMarker
  | nodeContent
  | blockEntryExpected | keyExpected
  | flowSequenceEnd | flowMappingEnd
  | documentStart
  | incompatibleVersion | repeatedVersion | repeatedHandle
  | undefinedHandle
  | undefinedAnchor (name : String)
  | unexpectedEnd
  deriving DecidableEq, Repr

def SyntaxFault.message : SyntaxFault → String
  | character => "control characters are not allowed"
  | tokenStart => "found character that cannot start any token"
  | tabIndent => "found a tab character that violates indentation"
  | missingColon => "could not find expected ':'"
  | entryPlace => "block sequence entries are not allowed in this context"
  | keyPlace => "mapping keys are not allowed in this context"
  | valuePlace => "mapping values are not allowed in this context"
  | tooDeep => "exceeded max depth of 10000"
  | directive => "found an invalid directive"
  | anchorName => "did not find expected alphabetic or numeric character"
  | tagText => "did not find expected tag URI"
  | quotedEnd => "found unexpected end of stream"
  | escape => "found unknown escape character"
  | blockHeader => "did not find expected comment or line break"
  | documentMarker => "found unexpected document indicator"
  | nodeContent => "did not find expected node content"
  | blockEntryExpected => "did not find expected '-' indicator"
  | keyExpected => "did not find expected key"
  | flowSequenceEnd => "did not find expected ',' or ']'"
  | flowMappingEnd => "did not find expected ',' or '\x7d'"
  | documentStart => "did not find expected <document start>"
  | incompatibleVersion => "found incompatible YAML document"
  | repeatedVersion => "found duplicate %YAML directive"
  | repeatedHandle => "found duplicate %TAG directive"
  | undefinedHandle => "found undefined tag handle"
  | undefinedAnchor name => "unknown anchor '" ++ name ++ "' referenced"
  | unexpectedEnd => "attempted to go past the end of stream; corrupted value?"

end TensorGraph.Yaml
