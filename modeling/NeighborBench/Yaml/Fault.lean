/-! # Why a text is no YAML, or not the YAML that is wanted -/

namespace NeighborBench.Yaml

inductive Fault where
  | forbiddenCharacter
  | tabIndentation
  | missingColon
  | misplaced (what : String)
  | noTokenStart
  | unfinishedQuote
  | markInQuote
  | badEscape
  | badBlockHeader
  | badDirective
  | badAnchor
  | badTag
  | badVersion
  | repeatedDirective
  | unknownHandle
  | unknownAnchor
  | unexpected (wanted : String)
  | tooDeep
  | tooManyAliases
  | wrongType (wanted : String)
  | repeatedField (name : String)
  | missingField (name : String)
  deriving DecidableEq, Repr

def Fault.message : Fault → String
  | forbiddenCharacter => "control characters are not allowed"
  | tabIndentation => "found a tab character that violates indentation"
  | missingColon => "could not find expected ':'"
  | misplaced what => s!"{what} are not allowed in this context"
  | noTokenStart => "found character that cannot start any token"
  | unfinishedQuote => "found unexpected end of stream"
  | markInQuote => "found unexpected document indicator"
  | badEscape => "found unknown escape character"
  | badBlockHeader => "did not find expected comment or line break"
  | badDirective => "found unknown directive name"
  | badAnchor => "did not find expected alphabetic or numeric character"
  | badTag => "did not find expected tag URI"
  | badVersion => "found incompatible YAML document"
  | repeatedDirective => "found duplicate directive"
  | unknownHandle => "found undefined tag handle"
  | unknownAnchor => "unknown anchor"
  | unexpected wanted => s!"did not find expected {wanted}"
  | tooDeep => "recursion limit exceeded"
  | tooManyAliases => "repetition limit exceeded"
  | wrongType wanted => s!"invalid type: expected {wanted}"
  | repeatedField name => s!"duplicate field `{name}`"
  | missingField name => s!"missing field `{name}`"

end NeighborBench.Yaml
