/-
**Tables of contents.**

* `contents`: the headings of a document with their anchors. The second heading with an anchor gets
  `-1` behind it, the third `-2`, and so on;
* `renderContents`: the entries as a nested list, indented from the shallowest level on;
* `Page`: a document together with its contents.
-/

import ReferencePages.Markdown.Anchor
import ReferencePages.Markdown.Escape
import ReferencePages.Markdown.Heading

namespace ReferencePages

open Text Markdown

/-- An entry of a table of contents. -/
structure ContentsEntry where
  level : Nat
  title : Text
  anchor : Text
  deriving DecidableEq

/-- An anchor that has been used `count` times before. -/
def numberedAnchor (base : Text) (count : Nat) : Text :=
  if count = 0 then base else base ++ ['-'] ++ Text.ofNat count

/-- The entry of a heading, below headings with the given anchors. -/
def contentsEntry (used : List Text) (heading : Heading) : ContentsEntry :=
  let title := unescape heading.text
  let base := anchor title
  ⟨heading.level, title, numberedAnchor base (used.count base)⟩

/-- The entries of headings, below headings with the given anchors. -/
def contentsFrom (used : List Text) : List Heading → List ContentsEntry
  | [] => []
  | heading :: rest =>
    contentsEntry used heading :: contentsFrom (anchor (unescape heading.text) :: used) rest

/-- The table of contents of a document. -/
def contents (t : Text) : List ContentsEntry := contentsFrom [] ((headings t).map (·.1))

/-- A linked item of a list. -/
def linkItem (title target : Text) : Text :=
  ['-', ' ', '['] ++ title ++ [']', '('] ++ target ++ [')']

/-- The shallowest level of the entries. -/
def shallowest (entries : List ContentsEntry) : Nat := ((entries.map (·.level)).min?).getD 1

/-- The entries as a nested list. -/
def renderContents (entries : List ContentsEntry) : Text :=
  entries.flatMap fun entry =>
    List.replicate (2 * (entry.level - shallowest entries)) ' ' ++
      linkItem entry.title ('#' :: entry.anchor) ++ ['\n']

/-- A document and its table of contents. -/
structure Page where
  text : Text
  contents : List ContentsEntry
  deriving DecidableEq

/-- The page with the given text. -/
def Page.ofText (t : Text) : Page := ⟨t, ReferencePages.contents t⟩

end ReferencePages
