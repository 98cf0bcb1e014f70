import UserConfigs.Yaml.Mark

/-!
# Problems in YAML texts

A `Problem` says what is wrong with a text (`Flaw`), where, and what was being read there
(`Activity`), with the place where that started. `Problem.message` tells all of it, except
places at the very start of the text and a place told already.
-/

namespace UserConfigs.Yaml

/-- What is wrong with a text. -/
inductive Flaw where
  | controlCharacter
  | keyWithoutColon
  | blockEntryNotAllowed
  | mappingKeyNotAllowed
  | mappingValueNotAllowed
  | startsNoToken
  | noDirectiveName
  | directiveNameEnd
  | unknownDirective
  | noCommentOrBreak
  | noVersionNumber
  | noVersionPoint
  | longVersionNumber
  | noWhitespace
  | noWhitespaceOrBreak
  | noAnchorName
  | noVerbatimEnd
  | noExclamation
  | noTagUri
  | noEscapedOctet
  | leadingOctet
  | trailingOctet
  | zeroIndentation
  | tabInIndentation
  | documentMarkerInText
  | endInText
  | unknownEscape
  | noHexDigits
  | invalidCodePoint
  | unexpectedColon
  | tabViolatesIndentation
  | noDocumentStart
  | noNodeContent
  | undefinedTagHandle
  | noDash
  | noKey
  | noSequenceEnd
  | noMappingEnd
  | duplicateVersion
  | incompatibleVersion
  | duplicateTag
  deriving Repr, DecidableEq

/-- The message of a flaw. -/
def Flaw.text : Flaw → String
  | controlCharacter => "control characters are not allowed"
  | keyWithoutColon => "could not find expected ':'"
  | blockEntryNotAllowed => "block sequence entries are not allowed in this context"
  | mappingKeyNotAllowed => "mapping keys are not allowed in this context"
  | mappingValueNotAllowed => "mapping values are not allowed in this context"
  | startsNoToken => "found character that cannot start any token"
  | noDirectiveName => "could not find expected directive name"
  | directiveNameEnd => "found unexpected non-alphabetical character"
  | unknownDirective => "found unknown directive name"
  | noCommentOrBreak => "did not find expected comment or line break"
  | noVersionNumber => "did not find expected version number"
  | noVersionPoint => "did not find expected digit or '.' character"
  | longVersionNumber => "found extremely long version number"
  | noWhitespace => "did not find expected whitespace"
  | noWhitespaceOrBreak => "did not find expected whitespace or line break"
  | noAnchorName => "did not find expected alphabetic or numeric character"
  | noVerbatimEnd => "did not find the expected '>'"
  | noExclamation => "did not find expected '!'"
  | noTagUri => "did not find expected tag URI"
  | noEscapedOctet => "did not find URI escaped octet"
  | leadingOctet => "found an incorrect leading UTF-8 octet"
  | trailingOctet => "found an incorrect trailing UTF-8 octet"
  | zeroIndentation => "found an indentation indicator equal to 0"
  | tabInIndentation => "found a tab character where an indentation space is expected"
  | documentMarkerInText => "found unexpected document indicator"
  | endInText => "found unexpected end of stream"
  | unknownEscape => "found unknown escape character"
  | noHexDigits => "did not find expected hexdecimal number"
  | invalidCodePoint => "found invalid Unicode character escape code"
  | unexpectedColon => "found unexpected ':'"
  | tabViolatesIndentation => "found a tab character that violates indentation"
  | noDocumentStart => "did not find expected <document start>"
  | noNodeContent => "did not find expected node content"
  | undefinedTagHandle => "found undefined tag handle"
  | noDash => "did not find expected '-' indicator"
  | noKey => "did not find expected key"
  | noSequenceEnd => "did not find expected ',' or ']'"
  | noMappingEnd => "did not find expected ',' or '\x7d'"
  | duplicateVersion => "found duplicate %YAML directive"
  | incompatibleVersion => "found incompatible YAML document"
  | duplicateTag => "found duplicate %TAG directive"

/-- What was being read. -/
inductive Activity where
  | scanningKey
  | scanningToken
  | scanningDirective
  | scanningVersion
  | scanningTagDirective
  | scanningTagDirectiveHandle
  | parsingTagDirective
  | parsingTagDirectiveHandle
  | scanningAnchor
  | scanningAlias
  | scanningTag
  | parsingTag
  | scanningBlock
  | scanningQuoted
  | parsingQuoted
  | scanningPlain
  | parsingBlockNode
  | parsingFlowNode
  | parsingNode
  | parsingBlockSequence
  | parsingBlockMapping
  | parsingFlowSequence
  | parsingFlowMapping
  deriving Repr, DecidableEq

/-- An activity in messages. -/
def Activity.text : Activity → String
  | scanningKey => "while scanning a simple key"
  | scanningToken => "while scanning for the next token"
  | scanningDirective => "while scanning a directive"
  | scanningVersion => "while scanning a %YAML directive"
  | scanningTagDirective => "while scanning a %TAG directive"
  | scanningTagDirectiveHandle => "while scanning a tag directive"
  | parsingTagDirective => "while parsing a %TAG directive"
  | parsingTagDirectiveHandle => "while parsing a tag directive"
  | scanningAnchor => "while scanning an anchor"
  | scanningAlias => "while scanning an alias"
  | scanningTag => "while scanning a tag"
  | parsingTag => "while parsing a tag"
  | scanningBlock => "while scanning a block scalar"
  | scanningQuoted => "while scanning a quoted scalar"
  | parsingQuoted => "while parsing a quoted scalar"
  | scanningPlain => "while scanning a plain scalar"
  | parsingBlockNode => "while parsing a block node"
  | parsingFlowNode => "while parsing a flow node"
  | parsingNode => "while parsing a node"
  | parsingBlockSequence => "while parsing a block collection"
  | parsingBlockMapping => "while parsing a block mapping"
  | parsingFlowSequence => "while parsing a flow sequence"
  | parsingFlowMapping => "while parsing a flow mapping"

/-- What is wrong, where, and what was being read since where. A flaw found before lines are
told apart is placed by the octets before it. -/
structure Problem where
  flaw : Flaw
  mark : Mark
  octets : Nat
  activity : Option (Activity × Mark)
  deriving Repr, DecidableEq

namespace Problem

/-- A flaw at a mark, in an activity. -/
def during (flaw : Flaw) (mark : Mark) (activity : Activity) (since : Mark) : Problem :=
  ⟨flaw, mark, 0, some (activity, since)⟩

/-- A flaw at a mark. -/
def alone (flaw : Flaw) (mark : Mark) : Problem := ⟨flaw, mark, 0, none⟩

/-- The place of the flaw in messages, nothing for the start of the text. -/
def place (p : Problem) : String :=
  if !p.mark.isOrigin then " at " ++ p.mark.text
  else if p.octets ≠ 0 then " at position " ++ toString p.octets
  else ""

/-- The message of a problem. -/
def message (p : Problem) : String :=
  p.flaw.text ++ p.place ++
    match p.activity with
    | none => ""
    | some (a, since) =>
      ", " ++ a.text ++
        (if since.isOrigin || (since.line = p.mark.line && since.column = p.mark.column) then ""
         else " at " ++ since.text)

end Problem

end UserConfigs.Yaml
