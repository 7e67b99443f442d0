import NeighborBench.Proofs.Json.Numbers
import NeighborBench.Proofs.Search.Segments
import NeighborBench.Proofs.Text.Integer
import NeighborBench.Search.HttpClient

/-! # URLs of searches

The URL of a search is read back as the host and the port of its connection, if the host is plain. What
the name of the index makes of the path and the query is left as it is.
-/

namespace NeighborBench

/-- A name or an address of four bytes, without marks that mean something else in a URL. -/
structure PlainHost (endpoint : String) (host : Host) : Prop where
  unmarked : endpoint.toList.Disjoint ['/', '\\', '?', '#', '@', ':', '[', '\t', '\n', '\r']
  read : Host.ofText? endpoint.toList = some host

namespace Url

/-! ## Marks -/

theorem mem_of_isSlash {c : Char} (h : isSlash c = true) : c ∈ ['/', '\\'] := by
  simpa [isSlash] using h

theorem mem_of_endsAuthority {c : Char} (h : endsAuthority c = true) : c ∈ ['/', '\\', '?', '#'] := by
  simpa [endsAuthority, isSlash, or_assoc] using h

/-! ## Breaks and blanks -/

def unbroken (text : List Char) : List Char :=
  text.filter fun c => !(c = '\t' || c = '\n' || c = '\r')

theorem unbroken_append (text more : List Char) :
    unbroken (text ++ more) = unbroken text ++ unbroken more :=
  List.filter_append text more

theorem unbroken_eq_self {text : List Char} (h : text.Disjoint ['\t', '\n', '\r']) :
    unbroken text = text := by
  apply List.filter_eq_self.mpr
  intro c hc
  have hbreak : c ∉ ['\t', '\n', '\r'] := fun hmark => h hc hmark
  simpa [and_assoc] using hbreak

theorem unbroken_disjoint (text : List Char) : (unbroken text).Disjoint ['\t', '\n', '\r'] := by
  intro c hc
  simpa [and_assoc] using List.of_mem_filter hc

theorem cleaned_of_ends {first last : Char} (middle : List Char) (hfirst : isStripped first = false)
    (hlast : isStripped last = false) :
    cleaned (first :: (middle ++ [last])) = unbroken (first :: (middle ++ [last])) := by
  -- Between characters that are no blanks, only breaks are left out.
  unfold cleaned unbroken
  rw [List.dropWhile_cons_of_neg (by simpa using hfirst), ← List.cons_append, List.reverse_append,
    List.reverse_singleton, List.singleton_append, List.dropWhile_cons_of_neg (by simpa using hlast)]
  simp

/-! ## Host and port -/

theorem withoutUser_eq_self {authority : List Char} (h : '@' ∉ authority) :
    withoutUser authority = authority := by
  rw [withoutUser, List.takeWhile_eq_self_iff.mpr, List.reverse_reverse]
  exact Text.ne_of_unmarked (by rwa [List.mem_reverse])

theorem splitPort_colon {host : List Char} (h : host.Disjoint [':', '[']) (port : List Char) :
    splitPort false (host ++ ':' :: port) = (host, some port) := by
  induction host with
  | nil => rfl
  | cons c rest ih =>
    obtain ⟨hc, hrest⟩ := List.disjoint_cons_left.mp h
    rw [List.mem_pair, not_or] at hc
    simp [splitPort, hc, ih hrest]

theorem port?_repr {n : Nat} (h : n ≤ portLimit) : port? (some (Nat.repr n).toList) = some n := by
  have hdigits := Json.allDigits_repr n
  have hvalue : Text.digitsValue? 10 (Nat.repr n).toList = some n := by
    rw [Text.digitsValue?_ten hdigits, Json.value_repr]
  obtain ⟨c, rest, hrepr⟩ := List.exists_cons_of_ne_nil (Json.repr_ne_nil n)
  rw [hrepr] at hdigits hvalue ⊢
  rw [port?, if_pos (List.all_eq_true.mpr hdigits), hvalue]
  · simpa using h
  · nofun

/-! ## Reading the text after the scheme -/

/-- The query is what follows the first question mark. -/
def queryOf? (rest : List Char) : Option String :=
  match rest.dropWhile (· ≠ '?') with
  | [] => none
  | _ :: query => some (queryText query)

theorem ofRest?_slash {authority hostText : List Char} {portText : Option (List Char)}
    (hmarks : authority.Disjoint ['/', '\\', '?', '#', '@'])
    (hsplit : splitPort false authority = (hostText, portText)) (rest : List Char) :
    ofRest? (authority ++ '/' :: rest) = (do
      let host ← Host.ofText? hostText
      let port ← port? portText
      some ⟨host, port, resolved [] (splitSlashes ((rest.takeWhile (· ≠ '#')).takeWhile (· ≠ '?'))),
        queryOf? (rest.takeWhile (· ≠ '#'))⟩) := by
  have hhash : (authority ++ '/' :: rest).takeWhile (· ≠ '#') =
      authority ++ '/' :: rest.takeWhile (· ≠ '#') := by
    rw [List.takeWhile_append_of_pos (Text.ne_of_unmarked fun hmark => hmarks hmark (by decide)),
      List.takeWhile_cons_of_pos (by decide)]
  have hplain : ∀ c ∈ authority, (!endsAuthority c) = true := by
    intro c hc
    rw [Bool.not_eq_true', ← Bool.not_eq_true]
    intro hends
    exact hmarks hc (List.mem_append_left ['@'] (mem_of_endsAuthority hends))
  have huser : withoutUser authority = authority :=
    withoutUser_eq_self fun hat => hmarks hat (by decide)
  have htake (tail : List Char) : ('/' :: tail).takeWhile (!endsAuthority ·) = [] := rfl
  have hdrop (tail : List Char) : ('/' :: tail).dropWhile (!endsAuthority ·) = '/' :: tail := rfl
  unfold ofRest?
  simp only [hhash, List.takeWhile_append_of_pos hplain, List.dropWhile_append_of_pos hplain, htake,
    hdrop, List.append_nil, huser, hsplit]
  rfl

/-! ## The URL of a search -/

/-- What follows the host and the port of a search. -/
def searchTail (index : String) : List Char :=
  (unbroken index.toList ++ "/_search".toList).takeWhile (· ≠ '#')

/-- What is left of the path of a search. -/
def searchSegments (index : String) : List String :=
  resolved [] (splitSlashes ((searchTail index).takeWhile (· ≠ '?')))

end Url

namespace Connection

/-- The host and the port as they stand in a URL. -/
def authority (c : Connection) : List Char := c.endpoint.toList ++ ':' :: (Nat.repr c.port).toList

theorem searchUrl_toList (c : Connection) (index : String) :
    (c.searchUrl index).toList =
      "http://".toList ++ (c.authority ++ '/' :: (index.toList ++ "/_search".toList)) := by
  have htext : c.searchUrl index =
      "http://" ++ c.endpoint ++ ":" ++ Nat.repr c.port ++ "/" ++ index ++ "/_search" := rfl
  simp [htext, authority]

variable {host : Host} {c : Connection} (hplain : PlainHost c.endpoint host)
include hplain

theorem authority_unmarked :
    c.authority.Disjoint ['/', '\\', '?', '#', '@', '\t', '\n', '\r'] := by
  have hdigit : ∀ mark ∈ ['/', '\\', '?', '#', '@', '\t', '\n', '\r'], mark.isDigit = false := by
    simp [Char.isDigit]
  rw [authority, List.disjoint_append_left, List.disjoint_cons_left]
  refine ⟨List.disjoint_of_subset_right (by decide) hplain.unmarked, by decide, ?_⟩
  intro d hd hmark
  have hnot := hdigit d hmark
  rw [Json.allDigits_repr c.port d hd] at hnot
  cases hnot

theorem splitPort_authority :
    Url.splitPort false c.authority = (c.endpoint.toList, some (Nat.repr c.port).toList) := by
  apply Url.splitPort_colon
  exact List.disjoint_of_subset_right (by decide) hplain.unmarked

theorem cleaned_searchUrl (index : String) :
    Url.cleaned (c.searchUrl index).toList =
      "http://".toList ++ (c.authority ++ '/' :: (Url.unbroken index.toList ++ "/_search".toList)) := by
  have hends : (c.searchUrl index).toList = 'h' ::
      (("ttp://".toList ++ (c.authority ++ '/' :: (index.toList ++ "/_searc".toList))) ++ ['h']) := by
    rw [searchUrl_toList]
    simp
  have hauthority : Url.unbroken c.authority = c.authority := by
    apply Url.unbroken_eq_self
    exact List.disjoint_of_subset_right (by decide) (authority_unmarked hplain)
  have hscheme : Url.unbroken "http://".toList = "http://".toList := by decide
  have hslash (rest : List Char) : Url.unbroken ('/' :: rest) = '/' :: Url.unbroken rest :=
    List.filter_cons_of_pos (by decide)
  have hsearch : Url.unbroken "/_search".toList = "/_search".toList := by decide
  rw [hends, Url.cleaned_of_ends _ (by decide) (by decide), ← hends, searchUrl_toList]
  simp only [Url.unbroken_append, hscheme, hauthority, hslash, hsearch]

theorem dropWhile_isSlash_authority (rest : List Char) :
    ('/' :: '/' :: (c.authority ++ rest)).dropWhile Url.isSlash = c.authority ++ rest := by
  obtain ⟨d, more, hauthority⟩ := List.exists_cons_of_ne_nil (l := c.authority) (by simp [authority])
  have hd : ¬Url.isSlash d = true := by
    intro hslash
    have hmem : d ∈ c.authority := by simp [hauthority]
    exact authority_unmarked hplain hmem (List.mem_append_left _ (Url.mem_of_isSlash hslash))
  rw [hauthority, List.dropWhile_cons_of_pos (by decide), List.dropWhile_cons_of_pos (by decide),
    List.cons_append, List.dropWhile_cons_of_neg hd]

theorem ofText?_searchUrl (hport : c.port ≤ Url.portLimit) (index : String) :
    Url.ofText? (c.searchUrl index) =
      some ⟨host, c.port, Url.searchSegments index, Url.queryOf? (Url.searchTail index)⟩ := by
  have hscheme : (String.ofList Url.scheme.toList).toLower = Url.scheme :=
    (Url.toLower_eq_iff _ _).mpr (by decide)
  have hhttp (rest : List Char) :
      "http://".toList ++ rest = Url.scheme.toList ++ '/' :: '/' :: rest := rfl
  have hmarks : c.authority.Disjoint ['/', '\\', '?', '#', '@'] :=
    List.disjoint_of_subset_right (by decide) (authority_unmarked hplain)
  unfold Url.ofText?
  simp only [cleaned_searchUrl hplain, hhttp]
  rw [List.take_left' String.length_toList, List.drop_left' String.length_toList, if_pos hscheme,
    dropWhile_isSlash_authority hplain, Url.ofRest?_slash hmarks (splitPort_authority hplain),
    hplain.read, Url.port?_repr hport]
  rfl

end Connection

end NeighborBench
