/-
This file lists the reasons for which a written pattern is refused, and reports them.
-/

import ChatCalculator.Text.Basic

namespace ChatCalculator

/-- Each fault names one cause. Classes and cases are those of ASCII, and what would need the
tables of Unicode is refused. -/
inductive PatternFault where
  | unclosedGroup
  | unopenedGroup
  | unclosedClass
  | nothingRepeated
  | unclosedCount
  | missingCount
  | invalidCount
  | reversedCount
  | unfinishedEscape
  | unknownEscape
  | backreference
  | invalidHexDigit
  | missingHexDigits
  | invalidCodePoint
  | reversedRange
  | rangeEnd
  | escapeInClass
  | propertyEscape
  | lookAround
  | unknownFlag
  | unfinishedFlags
  | danglingNegation
  | repeatedNegation
  | repeatedFlag
  | missingName
  | invalidName
  | unfinishedName
  | missingProperties
  | missingClasses
  | missingCases
  | missingWords
  | tooLarge
  deriving DecidableEq, Repr

namespace PatternFault

def message : PatternFault → Text
  | unclosedGroup => "unclosed group".toList
  | unopenedGroup => "unopened group".toList
  | unclosedClass => "unclosed character class".toList
  | nothingRepeated => "repetition operator missing expression".toList
  | unclosedCount => "unclosed counted repetition".toList
  | missingCount => "repetition quantifier expects a valid decimal".toList
  | invalidCount => "decimal literal invalid".toList
  | reversedCount =>
      "invalid repetition count range, the start must be <= the end".toList
  | unfinishedEscape =>
      "incomplete escape sequence, reached end of pattern prematurely".toList
  | unknownEscape => "unrecognized escape sequence".toList
  | backreference => "backreferences are not supported".toList
  | invalidHexDigit => "invalid hexadecimal digit".toList
  | missingHexDigits => "hexadecimal literal empty".toList
  | invalidCodePoint => "hexadecimal literal is not a Unicode scalar value".toList
  | reversedRange => "invalid character class range, the start must be <= the end".toList
  | rangeEnd => "invalid range boundary, must be a literal".toList
  | escapeInClass => "invalid escape sequence found in character class".toList
  | propertyEscape => "invalid Unicode character class".toList
  | lookAround =>
      "look-around, including look-ahead and look-behind, is not supported".toList
  | unknownFlag => "unrecognized flag".toList
  | unfinishedFlags => "expected flag but got end of regex".toList
  | danglingNegation => "dangling flag negation operator".toList
  | repeatedNegation => "flag negation operator repeated".toList
  | repeatedFlag => "duplicate flag".toList
  | missingName => "empty capture group name".toList
  | invalidName => "invalid capture group character".toList
  | unfinishedName => "unclosed capture group name".toList
  | missingProperties => "Unicode property not found".toList
  | missingClasses =>
      ("Unicode-aware Perl class not found " ++
        "(make sure the unicode-perl feature is enabled)").toList
  | missingCases =>
      ("Unicode-aware case insensitivity matching is not available " ++
        "(make sure the unicode-case feature is enabled)").toList
  | missingWords => "error building NFA".toList
  | tooLarge => "Compiled regex exceeds size limit of 10485760 bytes.".toList

/-- Some faults lie in no part of the pattern. -/
def hasPlace : PatternFault → Bool
  | missingWords | tooLarge => false
  | _ => true

end PatternFault

/-- An error is a fault at the characters between two places. Some faults refer to an earlier
part as well. -/
structure PatternError where
  fault : PatternFault
  start : Nat
  stop : Nat
  earlier : Option Nat := none
  deriving DecidableEq, Repr

namespace PatternError

/-- The error is pointed at below the pattern, at one character at least. -/
def pointer (error : PatternError) : Text :=
  let here := List.replicate (max 1 (error.stop - error.start)) '^'
  match error.earlier with
  | none => List.replicate error.start ' ' ++ here
  | some place =>
      List.replicate place ' ' ++ '^' :: List.replicate (error.start - (place + 1)) ' ' ++ here

/-- This report shows the pattern, the place of the error and its cause. -/
def report (written : Text) (error : PatternError) : Text :=
  if error.fault.hasPlace then
    "regex parse error:\n    ".toList ++ written ++ "\n    ".toList ++ error.pointer ++
      "\nerror: ".toList ++ error.fault.message
  else error.fault.message

end PatternError

end ChatCalculator
