import TenantSearch.Text.Alphanumeric
import TenantSearch.Text.Blank
import TenantSearch.Text.WordBreak

/-! Short previews of long texts. A text is cut into segments at its word boundaries; a preview
shows a run of segments with a limited number of words. An excerpt starts where the text starts, a
headline near the first word that was searched for, and marks every such word. -/
namespace TenantSearch

structure HeadlineStyle where
  /-- Half of this many words stand before the first marked one. -/
  minWords : Nat
  maxWords : Nat
  opening : Text
  closing : Text
  deriving DecidableEq, Repr

namespace Headline

structure Segment where
  text : Text
  isHit : Bool
  deriving DecidableEq, Repr

def Segment.isWord (segment : Segment) : Bool := segment.text.any Text.isAlphanumeric

def Segment.isGap (segment : Segment) : Bool := Text.allBlank segment.text

def segmentsOf (isHit : Text → Bool) (text : Text) : List Segment :=
  (Text.WordBreak.segments text).map fun piece =>
    ⟨piece, piece.any Text.isAlphanumeric && isHit piece⟩

/-- The segments from the word on that `skipped` words precede; all of them if that is no word. -/
def fromWord (skipped : Nat) : List Segment → List Segment
  | [] => []
  | segment :: rest =>
    match skipped with
    | 0 => segment :: rest
    | fewer + 1 =>
      if segment.isWord then
        if fewer = 0 then rest.dropWhile (!·.isWord) else fromWord fewer rest
      else fromWord (fewer + 1) rest

def throughWord (count : Nat) : List Segment → List Segment
  | [] => []
  | segment :: rest =>
    match count with
    | 0 => []
    | fewer + 1 => segment :: throughWord (if segment.isWord then fewer else fewer + 1) rest

/-- The run of segments to be shown: at most `maxWords` words, at least one, starting `context`
words before the first hit or with the first word, and never so late that fewer words are left. -/
def window (maxWords context : Nat) (segments : List Segment) : List Segment :=
  let words := segments.filter (·.isWord)
  let size := max 1 maxWords
  if words.length ≤ size then segments
  else
    let anchor := (words.findIdx? (·.isHit)).getD 0
    let start := min (anchor - context) (words.length - size)
    let shown := fromWord start segments
    if start + size = words.length then shown else throughWord size shown

def Segment.render (opening closing : Text) (segment : Segment) : Text :=
  if segment.isHit then opening ++ segment.text ++ closing else segment.text

/-- Segments with one space for the gaps between two of them. `started` tells whether a segment
stands before them, `gap` whether a gap does. -/
def join (opening closing : Text) (started gap : Bool) : List Segment → Text
  | [] => []
  | segment :: rest =>
    if segment.isGap then join opening closing started true rest
    else
      (if started && gap then [' '] else []) ++ segment.render opening closing ++
        join opening closing true false rest

def preview (style : HeadlineStyle) (context : Nat) (isHit : Text → Bool) (text : Text) : Text :=
  let segments := segmentsOf isHit text
  if segments.any (·.isWord) then
    join style.opening style.closing false false (window style.maxWords context segments)
  else Text.collapse text

end Headline

/-- The part of a text around the first word that satisfies the test, with every such word
marked. -/
def headline (style : HeadlineStyle) (isHit : Text → Bool) (text : Text) : Text :=
  Headline.preview style (style.minWords / 2) isHit text

def excerpt (maxWords : Nat) (text : Text) : Text :=
  Headline.preview ⟨0, maxWords, [], []⟩ 0 (fun _ => false) text

end TenantSearch
