import NeighborBench.Proofs.Search.Address
import NeighborBench.Proofs.Search.Form

/-! # Where searches go

The name of an index is put into the text of a URL as it is, and then the text is read. A name that
means itself in a path leads to the search of its index. Any other name leads elsewhere.
-/

namespace NeighborBench

open Text (HasEscape bytes percentDecoded)
open Url (searchTail searchSegments)

/-- A name that means itself as a part of a path. -/
structure PathSafe (name : String) : Prop where
  unmarked : name.toList.Disjoint ['/', '\\', '?', '#', '\t', '\n', '\r']
  not_dot : name ≠ "."
  not_double_dot : name ≠ ".."
  no_escape : ¬HasEscape name.toList

/-! ## The path and the query of a search -/

theorem takeWhile_append_eq_or_sublist (p : Char → Bool) (front : List Char) {more : List Char}
    (h : ∀ c ∈ more, p c = true) :
    (front ++ more).takeWhile p = front ++ more ∨ ((front ++ more).takeWhile p).Sublist front := by
  rw [List.takeWhile_append]
  split
  · left
    rw [List.takeWhile_eq_self_iff.mpr h]
  · exact .inr (List.takeWhile_sublist p)

theorem splitSlashes_search (front : List Char) :
    Url.splitSlashes (front ++ "/_search".toList) = Url.splitSlashes front ++ ["_search".toList] := by
  have hsearch : Url.splitSlashes "_search".toList = ["_search".toList] := by decide
  rw [show "/_search".toList = '/' :: "_search".toList from rfl, Url.splitSlashes_slash, hsearch]

section

variable {index : String} {piece : List Char}
  (h : piece ∈ Url.splitSlashes ((searchTail index).takeWhile (· ≠ '?')))
include h

theorem piece_unmarked : piece.Disjoint ['/', '\\', '?', '#', '\t', '\n', '\r'] := by
  obtain ⟨hsub, hslash⟩ := Url.mem_splitSlashes h
  intro c hc hmark
  have hpath := hsub.subset hc
  have htail := (List.takeWhile_sublist _).subset hpath
  have hbroken : (Url.unbroken index.toList ++ "/_search".toList).Disjoint ['\t', '\n', '\r'] :=
    List.disjoint_append_left.mpr ⟨Url.unbroken_disjoint _, by simp⟩
  obtain rfl | rfl | rfl | rfl | hbreak :
      c = '/' ∨ c = '\\' ∨ c = '?' ∨ c = '#' ∨ c ∈ ['\t', '\n', '\r'] := by
    simpa using hmark
  · cases hslash _ hc
  · cases hslash _ hc
  · cases List.mem_takeWhile_imp hpath
  · cases List.mem_takeWhile_imp htail
  · exact hbroken ((List.takeWhile_sublist _).subset htail) hbreak

theorem piece_sublist_or_search : piece.Sublist index.toList ∨ piece = "_search".toList := by
  have hname : (Url.unbroken index.toList).Sublist index.toList := List.filter_sublist
  have hmarks : ∀ c ∈ "/_search".toList,
      decide (decide (c ≠ '?') = true ∧ decide (c ≠ '#') = true) = true := by simp
  rw [searchTail, List.takeWhile_takeWhile] at h
  rcases takeWhile_append_eq_or_sublist _ (Url.unbroken index.toList) hmarks with hall | hfront
  · rw [hall, splitSlashes_search, List.mem_append, List.mem_singleton] at h
    exact h.imp_left fun hpiece => (Url.mem_splitSlashes hpiece).1.trans hname
  · exact .inl (((Url.mem_splitSlashes h).1.trans hfront).trans hname)

end

theorem PathSafe.of_piece {index : String} {piece : List Char}
    (hmarks : piece.Disjoint ['/', '\\', '?', '#', '\t', '\n', '\r']) (hdots : ¬Url.IsDots piece)
    (hpart : piece.Sublist index.toList ∨ piece = "_search".toList)
    (hbytes : percentDecoded piece = bytes index) : PathSafe index := by
  -- A piece that stands for the name of the index is that name: it takes as many bytes as the name
  -- at least, and it is a part of it.
  have hpiece : piece = index.toList := by
    rcases hpart with hsub | rfl
    · apply Text.eq_of_sublist hsub
      rw [← Text.length_bytes, ← hbytes]
      exact Text.length_percentDecoded_le piece
    · have hsearch : percentDecoded "_search".toList = bytes "_search" := by decide +kernel
      rw [← Text.bytes_injective (hsearch.symm.trans hbytes)]
  subst hpiece
  refine ⟨hmarks, ?_, ?_, ?_⟩
  · rintro rfl
    exact hdots (by decide +kernel)
  · rintro rfl
    exact hdots (by decide +kernel)
  · rwa [← Text.percentDecoded_eq_iff, ← Text.bytes_eq_flatMap]

theorem PathSafe.of_segment {index segment : String} (hmem : segment ∈ searchSegments index)
    (hbytes : percentDecoded segment.toList = bytes index) : PathSafe index := by
  rcases Url.mem_resolved hmem with hnil | rfl | ⟨piece, hpiece, hdots, rfl⟩
  · cases hnil
  · exact .of_piece (List.disjoint_nil_left _) (by decide +kernel) (.inl (List.nil_sublist _)) hbytes
  · rw [Url.percentDecoded_pathText] at hbytes
    exact .of_piece (piece_unmarked hpiece) hdots (piece_sublist_or_search hpiece) hbytes

namespace PathSafe

variable {index : String} (h : PathSafe index)
include h

theorem tail_unmarked : (index.toList ++ "/_search".toList).Disjoint ['?', '#'] := by
  rw [List.disjoint_append_left]
  exact ⟨List.disjoint_of_subset_right (by decide) h.unmarked, by simp⟩

theorem searchTail_eq : searchTail index = index.toList ++ "/_search".toList := by
  rw [searchTail, Url.unbroken_eq_self, List.takeWhile_eq_self_iff]
  · exact Text.ne_of_unmarked fun hmark => h.tail_unmarked hmark (by decide)
  · exact List.disjoint_of_subset_right (by decide) h.unmarked

theorem no_question : ∀ c ∈ searchTail index, decide (c ≠ '?') = true := by
  rw [h.searchTail_eq]
  exact Text.ne_of_unmarked fun hmark => h.tail_unmarked hmark (by decide)

theorem not_isDots : ¬Url.IsDots index.toList := by
  intro hdots
  rcases hdots.eq_or_hasEscape with hdot | hdouble | hescape
  · exact h.not_dot (String.toList_inj.mp hdot)
  · exact h.not_double_dot (String.toList_inj.mp hdouble)
  · exact h.no_escape hescape

theorem segments : searchSegments index = [Url.pathText index.toList, "_search"] := by
  have hslash : ∀ c ∈ index.toList, Url.isSlash c = false := by
    intro c hc
    rw [← Bool.not_eq_true]
    intro hslash
    exact h.unmarked hc (List.mem_append_left _ (Url.mem_of_isSlash hslash))
  have htext : Url.pathText "_search".toList = "_search" := by decide
  rw [searchSegments, List.takeWhile_eq_self_iff.mpr h.no_question, h.searchTail_eq, splitSlashes_search,
    Url.splitSlashes_plain hslash, List.singleton_append, Url.resolved_cons h.not_isDots,
    Url.resolved_cons (by decide +kernel), htext]
  rfl

theorem no_query : Url.queryOf? (searchTail index) = none := by
  rw [Url.queryOf?, List.dropWhile_eq_nil_iff.mpr h.no_question]

end PathSafe

/-! ## Requests -/

namespace Url

/-- The same place with the excluded fields in its query. -/
def excluding (url : Url) (excluded : List String) : Url :=
  if excluded.isEmpty then url
  else url.withPair HttpRequest.excludedKey (",".intercalate excluded)

@[simp] theorem excluding_host (url : Url) (excluded : List String) :
    (url.excluding excluded).host = url.host := by
  unfold excluding
  split <;> rfl

@[simp] theorem excluding_port (url : Url) (excluded : List String) :
    (url.excluding excluded).port = url.port := by
  unfold excluding
  split <;> rfl

@[simp] theorem excluding_path (url : Url) (excluded : List String) :
    (url.excluding excluded).path = url.path := by
  unfold excluding
  split <;> rfl

/-- Where an index is searched: two segments, the first of which stands for its name, and a query of
the excluded fields if there are any. -/
structure Searches (url : Url) (index : String) (excluded : List String) : Prop where
  path : ∃ segment, url.path = [segment, "_search"] ∧ percentDecoded segment.toList = bytes index
  query : if excluded = [] then url.query = none
    else ∃ query, url.query = some query ∧
      pairs query = [(bytes "_source_excludes", bytes (",".intercalate excluded))]

end Url

namespace Connection

/-- A search is this request and a reading of its answer, whatever carries requests. -/
def Sends (c : Connection) (r : SearchRequest) (request : HttpRequest) : Prop :=
  ∀ {m : Type → Type} [Monad m] [LawfulMonad m] (transport : Transport m),
    ∃ read : Except TransportFault HttpReply → Except ClientError SearchReply,
      c.search transport r = read <$> transport c.timeout request

theorem sends_of_httpRequest? {c : Connection} {r : SearchRequest} {request : HttpRequest}
    (h : c.httpRequest? r = some request) : c.Sends r request := by
  intro m _ _ transport
  refine ⟨fun answer =>
    (answer.mapError (TransportFault.clientError request.url)).bind SearchReply.ofHttp, ?_⟩
  rw [search, h, map_eq_pure_bind]
  apply bind_congr
  rintro (fault | reply) <;> rfl

theorem httpRequest?_eq {host : Host} {c : Connection} (hplain : PlainHost c.endpoint host)
    (hport : c.port ≤ Url.portLimit) (r : SearchRequest) :
    c.httpRequest? r = some ⟨(Url.mk host c.port (searchSegments r.index)
      (Url.queryOf? (searchTail r.index))).excluding r.excluded, r.body.text⟩ := by
  rw [httpRequest?, ofText?_searchUrl hplain hport]
  rfl

/-- The search of an index on a plain host is one request to that host. It goes to where the index is
searched if and only if the name of the index means itself in a path. -/
theorem search_reaches_index_iff {host : Host} (c : Connection) (r : SearchRequest)
    (hplain : PlainHost c.endpoint host) (hport : c.port ≤ Url.portLimit) :
    ∃ request, c.Sends r request ∧ request.url.host = host ∧ request.url.port = c.port ∧
      request.body = r.body.text ∧ (request.url.Searches r.index r.excluded ↔ PathSafe r.index) := by
  refine ⟨_, sends_of_httpRequest? (httpRequest?_eq hplain hport r), by simp, by simp, rfl, ?_⟩
  constructor
  · rintro ⟨⟨segment, hpath, hbytes⟩, -⟩
    simp only [Url.excluding_path] at hpath
    refine PathSafe.of_segment ?_ hbytes
    rw [hpath]
    exact List.mem_cons_self ..
  · intro hsafe
    constructor
    · refine ⟨Url.pathText r.index.toList, by rw [Url.excluding_path, hsafe.segments], ?_⟩
      rw [Url.percentDecoded_pathText, (Text.percentDecoded_eq_iff _).mpr hsafe.no_escape,
        Text.bytes_eq_flatMap]
    · rw [hsafe.no_query]
      split
      · next hnone =>
        rw [hnone]
        rfl
      · next hsome =>
        have hempty : r.excluded.isEmpty = false := by simpa using hsome
        rw [Url.excluding, hempty]
        exact ⟨_, rfl, Url.pairs_pair _ _⟩

theorem localhost_plain : PlainHost "localhost" (.name "localhost") where
  unmarked := by simp
  read := by
    have hbytes : percentDecoded "localhost".toList =
        [0x6C, 0x6F, 0x63, 0x61, 0x6C, 0x68, 0x6F, 0x73, 0x74] := by decide +kernel
    have htext : Text.utf8Lossy [0x6C, 0x6F, 0x63, 0x61, 0x6C, 0x68, 0x6F, 0x73, 0x74] =
        "localhost" := by simp [Text.utf8Lossy, Text.decode]
    have hlower : "localhost".toLower = "localhost" := by decide +kernel
    have hallowed : ("localhost".isEmpty || "localhost".toList.any Host.isForbidden) = false := by
      decide +kernel
    have hparts : "localhost".splitOn "." = ["localhost"] := by
      simp +decide [String.splitOn, String.splitOnAux]
    have hnumber : Host.endsInNumber "localhost" = false := by
      unfold Host.endsInNumber Host.parts
      rw [hparts]
      decide
    change Host.ofName? "localhost".toList = _
    simp only [Host.ofName?, hbytes, htext, hlower, hallowed, hnumber, Bool.false_eq_true, if_false]

/-- Marks that are written as bytes do no harm. -/
theorem logs_of_now_reaches_index :
    PlainHost "localhost" (.name "localhost") ∧ 9200 ≤ Url.portLimit ∧
      PathSafe "<logs-\x7bnow\x7d>" ∧
      ∃ request, Sends ⟨"localhost", 9200, 10⟩
          ⟨"<logs-\x7bnow\x7d>", .object [], ["vec", "a b"]⟩ request ∧
        request.url.host = .name "localhost" ∧ request.url.port = 9200 ∧
        request.body = (Json.object []).text ∧
        request.url.Searches "<logs-\x7bnow\x7d>" ["vec", "a b"] := by
  have hsafe : PathSafe "<logs-\x7bnow\x7d>" :=
    ⟨by simp, by decide, by decide, (Text.percentDecoded_eq_iff _).mp (by decide +kernel)⟩
  obtain ⟨request, hsends, hhost, hport, hbody, hreaches⟩ :=
    search_reaches_index_iff ⟨"localhost", 9200, 10⟩
      ⟨"<logs-\x7bnow\x7d>", .object [], ["vec", "a b"]⟩ localhost_plain (by decide)
  exact ⟨localhost_plain, by decide, hsafe, request, hsends, hhost, hport, hbody, hreaches.mpr hsafe⟩

/-- The slash in a date that is rounded to its day parts the name in two. -/
theorem logs_of_today_miss_index :
    ∃ request, Sends ⟨"localhost", 9200, 10⟩ ⟨"<logs-\x7bnow/d\x7d>", .object [], []⟩ request ∧
      request.url.path = ["%3Clogs-%7Bnow", "d%7D%3E", "_search"] ∧
      ¬request.url.Searches "<logs-\x7bnow/d\x7d>" [] := by
  have hpath : searchSegments "<logs-\x7bnow/d\x7d>" =
      ["%3Clogs-%7Bnow", "d%7D%3E", "_search"] := by decide +kernel
  refine ⟨_, sends_of_httpRequest? (httpRequest?_eq localhost_plain (by decide) _), ?_, ?_⟩
  · rw [Url.excluding_path, hpath]
  · rintro ⟨⟨segment, hsegments, -⟩, -⟩
    rw [Url.excluding_path, hpath] at hsegments
    simp at hsegments

end Connection

end NeighborBench
