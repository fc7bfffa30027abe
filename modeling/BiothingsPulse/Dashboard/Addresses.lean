import BiothingsPulse.Api.Requests
import BiothingsPulse.Dashboard.Containment
import BiothingsPulse.Foundation.DotSegments
import BiothingsPulse.Foundation.Splitting
import BiothingsPulse.Python.Quoting

/-!
# The addresses of the sources

The script of the dashboard makes the address of a source from its encoded names. A browser
drops dot segments from an address, and the server unquotes the path before it is split
and routed, so that what arrives is the route of that very source for some names only.
-/

namespace BiothingsPulse.Dashboard

open Foundation Foundation.DotSegments Foundation.Splitting

/-- A path of segments, from the root. -/
def pathText (segments : List (List Char)) : List Char := ['/'].intercalate ([] :: segments)

section Browser

def singleDots : List (List Char) := [".", "%2e", "%2E"].map String.toList

def doubleDots : List (List Char) :=
  ["..", ".%2e", ".%2E", "%2e.", "%2E.", "%2e%2e", "%2e%2E", "%2E%2e", "%2E%2E"].map String.toList

def segmentKind (segment : List Char) : SegmentKind :=
  if singleDots.contains segment then .singleDot
  else if doubleDots.contains segment then .doubleDot
  else .ordinary

def reservedInPath : List Char := "\"#<>?`\x7b\x7d^\\".toList

/-- The characters that a browser leaves as they are in the path of an address. -/
def isPathChar (c : Char) : Bool :=
  33 ≤ c.toNat && c.toNat ≤ 126 && !reservedInPath.contains c

/-- The path that a browser asks for, for an address of such characters from the root. -/
def requestTarget (address : List Char) : List Char :=
  pathText (resolve segmentKind [] (address.splitOn '/').tail)

end Browser

/-- The path below the root of the API, from the segments of the whole path. -/
def routedNames : List (List Char) → Option (List String)
  | [] :: root :: below => if root = "api".toList then some (below.map String.ofList) else none
  | _ => none

/-- The path below the root of the API, as a request is routed. -/
def routedPath (target : List Char) : Option (List String) :=
  (unquote target).bind fun path => routedNames (path.splitOn '/')

/-- The route that is asked for by following an address. -/
def routeOf (address : List Char) : Option Route :=
  (routedPath (requestTarget address)).bind Route.ofPath

section Script

/-- The address of a source's JSON. -/
def sourceAddress (repo plugin : String) : List Char :=
  "/api/sources/".toList ++ (encodeURIComponent repo ++ ("/".toList ++ encodeURIComponent plugin))

/-- The address that a source is checked at. -/
def checkAddress (repo plugin : String) : List Char :=
  sourceAddress repo plugin ++ "/check".toList

/-- The link to the JSON of a source is its address. -/
theorem jsonUrl_text (d : SourcePayload) :
    Html.text (jsonUrl d) = sourceAddress d.repo d.plugin := by
  have written : Html.text (jsonUrl d) = "/api/sources/".toList ++ (encodeURIComponent d.repo ++
      ("/".toList ++ (encodeURIComponent d.plugin ++ []))) := rfl
  rw [written, List.append_nil (encodeURIComponent d.plugin)]
  rfl

end Script

section Encoding

private theorem escapedByte_hexDigit (byte : UInt8) :
    escapedByte (hexDigit (byte.toNat / 16)) (hexDigit (byte.toNat % 16)) = some byte := by
  have digits : ∀ n < 16, hexValue (hexDigit n) = some n := by decide
  have bound := byte.toNat_lt
  rw [escapedByte, digits _ (by omega), digits _ (by omega)]
  simp [Nat.div_add_mod]

private theorem unquoteToBytes_escaped (bytes : List UInt8) (rest : List Char) :
    unquoteToBytes (bytes.flatMap percentEncoded ++ rest) = bytes ++ unquoteToBytes rest := by
  induction bytes with
  | nil => rfl
  | cons byte bytes ih =>
      rw [List.flatMap_cons, List.append_assoc, percentEncoded, List.cons_append, List.cons_append,
        List.cons_append, unquoteToBytes_escape (escapedByte_hexDigit byte), List.nil_append, ih]
      rfl

/-- The bytes of an encoded text are those of the text. -/
theorem unquoteToBytes_encoded (x : String) (rest : List Char) :
    unquoteToBytes (encodeURIComponent x ++ rest) =
      x.toList.flatMap String.utf8EncodeChar ++ unquoteToBytes rest := by
  rw [encodeURIComponent]
  induction x.toList with
  | nil => rfl
  | cons c text ih =>
      rw [List.flatMap_cons, List.flatMap_cons, List.append_assoc, List.append_assoc, ← ih]
      split
      · rename_i unreserved
        refine unquoteToBytes_cons ?_ _
        rintro rfl
        cases unreserved
      · exact unquoteToBytes_escaped _ _

private theorem unquote_encoded (x : String) : unquote (encodeURIComponent x) = some x.toList := by
  have bytes := unquoteToBytes_encoded x []
  rw [List.append_nil] at bytes
  refine unquote_of_bytes (bytes.trans ?_)
  rw [unquoteToBytes, List.append_nil]

private theorem pathText_cons (segment : List Char) (rest : List (List Char)) :
    pathText (segment :: rest) = '/' :: (segment ++ pathText rest) := by
  cases rest with
  | nil => simp [pathText]
  | cons next rest => simp [pathText, List.intercalate_cons_cons]

private theorem pathText_append (first second : List (List Char)) :
    pathText (first ++ second) = pathText first ++ pathText second := by
  induction first with
  | nil => rfl
  | cons segment first ih =>
      rw [List.cons_append, pathText_cons, pathText_cons, ih, List.cons_append, List.append_assoc]

private theorem unquote_pathText (names : List String) :
    unquote (pathText (names.map encodeURIComponent)) =
      some (pathText (names.map String.toList)) := by
  refine unquote_of_bytes ?_
  induction names with
  | nil => rfl
  | cons name names ih =>
      rw [List.map_cons, List.map_cons, pathText_cons, pathText_cons,
        unquoteToBytes_cons (by decide), unquoteToBytes_encoded, ih, List.flatMap_cons,
        List.flatMap_append]

end Encoding

section Characters

/-- What an encoded text is written with. -/
theorem mem_encodeURIComponent {x : String} {c : Char} (member : c ∈ encodeURIComponent x) :
    isUriUnreserved c = true ∨ c ∈ "%0123456789ABCDEF".toList := by
  obtain ⟨d, _, written⟩ := List.mem_flatMap.mp member
  split at written
  · rename_i unreserved
    exact .inl (List.mem_singleton.mp written ▸ unreserved)
  · obtain ⟨byte, _, written⟩ := List.mem_flatMap.mp written
    have digits : ∀ n < 16, hexDigit n ∈ "%0123456789ABCDEF".toList := by decide
    have bound := byte.toNat_lt
    right
    simp only [percentEncoded, List.mem_cons, List.not_mem_nil, or_false] at written
    obtain rfl | rfl | rfl := written
    · decide
    · exact digits _ (by omega)
    · exact digits _ (by omega)

private theorem range_of_unreserved {c : Char} (unreserved : isUriUnreserved c = true) :
    33 ≤ c.toNat ∧ c.toNat ≤ 126 := by
  obtain alphanumeric | mark := Bool.or_eq_true_iff.mp unreserved
  · have code := toNat_of_isAlphanum alphanumeric
    omega
  · have marks : ("-_.!~*'()".toList.all fun d => 33 ≤ d.toNat && d.toNat ≤ 126) = true := rfl
    simpa using List.all_eq_true.mp marks c (List.contains_iff_mem.mp mark)

private theorem isPathChar_of_unreserved {c : Char} (unreserved : isUriUnreserved c = true) :
    isPathChar c = true ∧ c ≠ '/' := by
  have special : (('/' :: reservedInPath).all fun d => !isUriUnreserved d) = true := rfl
  have other : c ∉ '/' :: reservedInPath := fun among => by
    simpa [unreserved] using List.all_eq_true.mp special c among
  rw [List.mem_cons, not_or] at other
  refine ⟨?_, other.1⟩
  simp [isPathChar, range_of_unreserved unreserved, other.2]

/-- A browser leaves an encoded text as it is, and takes it for one segment. -/
theorem isPathChar_of_mem {x : String} {c : Char} (member : c ∈ encodeURIComponent x) :
    isPathChar c = true ∧ c ≠ '/' := by
  obtain unreserved | digit := mem_encodeURIComponent member
  · exact isPathChar_of_unreserved unreserved
  · have digits : ("%0123456789ABCDEF".toList.all fun d => isPathChar d && d ≠ '/') = true := rfl
    simpa using List.all_eq_true.mp digits c digit

end Characters

section Routing

/-- A name that stands for itself in an address. -/
def nameKind (name : String) : SegmentKind :=
  if name = "." then .singleDot
  else if name = ".." then .doubleDot
  else .ordinary

/-- A segment that is read as the given dots is the encoding of no other name. -/
theorem encoded_mem_iff {dots : String} {readings : List (List Char)}
    (here : encodeURIComponent dots ∈ readings)
    (reads : ∀ reading ∈ readings,
      unquoteToBytes reading = dots.toList.flatMap String.utf8EncodeChar)
    (name : String) : encodeURIComponent name ∈ readings ↔ name = dots := by
  constructor
  · intro member
    have back := unquote_of_bytes (reads _ member)
    rw [unquote_encoded, Option.some.injEq] at back
    exact String.toList_injective back
  · rintro rfl
    exact here

private theorem segmentKind_encoded (name : String) :
    segmentKind (encodeURIComponent name) = nameKind name := by
  have single : encodeURIComponent name ∈ singleDots ↔ name = "." :=
    encoded_mem_iff (by decide) (by decide) name
  have double : encodeURIComponent name ∈ doubleDots ↔ name = ".." :=
    encoded_mem_iff (by decide) (by decide) name
  simp only [segmentKind, nameKind, List.contains_iff_mem, single, double]

private theorem splitOn_pathText {segments : List (List Char)}
    (whole : ∀ segment ∈ segments, '/' ∉ segment) :
    (pathText segments).splitOn '/' = [] :: segments := by
  refine List.splitOn_intercalate '/' ?_ (List.cons_ne_nil _ _)
  intro segment member
  obtain rfl | later := List.mem_cons.mp member
  · exact List.not_mem_nil
  · exact whole segment later

/-- What a browser asks for is the address of the resolved names. -/
theorem requestTarget_encoded (names : List String) :
    requestTarget (pathText (names.map encodeURIComponent)) =
      pathText ((resolve nameKind "" names).map encodeURIComponent) := by
  have whole : ∀ segment ∈ names.map encodeURIComponent, '/' ∉ segment := by
    intro segment member slash
    obtain ⟨name, _, rfl⟩ := List.mem_map.mp member
    exact (isPathChar_of_mem slash).2 rfl
  rw [requestTarget, splitOn_pathText whole, List.tail_cons]
  have resolved : resolve segmentKind (encodeURIComponent "") (names.map encodeURIComponent) =
      (resolve nameKind "" names).map encodeURIComponent :=
    resolve_map encodeURIComponent segmentKind_encoded names
  exact congrArg pathText resolved

private theorem routedPath_encoded (names : List String) :
    routedPath (requestTarget (pathText (names.map encodeURIComponent))) =
      routedNames ((pathText ((resolve nameKind "" names).map String.toList)).splitOn '/') := by
  rw [requestTarget_encoded, routedPath, unquote_pathText]
  rfl

/-- A name is ordinary unless it is one dot or two. -/
theorem nameKind_eq_ordinary_iff {name : String} :
    nameKind name = .ordinary ↔ name ≠ "." ∧ name ≠ ".." := by
  unfold nameKind
  split
  · simp_all
  · split <;> simp_all

/-- A name that is a segment by itself, and no dots. -/
structure Addressable (name : String) : Prop where
  nonempty : name ≠ ""
  whole : '/' ∉ name.toList
  ordinary : nameKind name = .ordinary

instance (name : String) : Decidable (Addressable name) :=
  decidable_of_iff (name ≠ "" ∧ '/' ∉ name.toList ∧ nameKind name = .ordinary)
    ⟨fun ⟨nonempty, whole, ordinary⟩ => ⟨nonempty, whole, ordinary⟩,
      fun ⟨nonempty, whole, ordinary⟩ => ⟨nonempty, whole, ordinary⟩⟩

/-- An address of such names below the root of the API is the path of these names. -/
theorem routeOf_addressable {below : List String} (addressable : ∀ name ∈ below, Addressable name) :
    routeOf (pathText (("api" :: below).map encodeURIComponent)) = Route.ofPath below := by
  have ordinary : ∀ name ∈ "api" :: below, nameKind name = .ordinary := by
    intro name member
    obtain rfl | later := List.mem_cons.mp member
    · rfl
    · exact (addressable name later).ordinary
  have whole : ∀ segment ∈ ("api" :: below).map String.toList, '/' ∉ segment := by
    intro segment member
    obtain ⟨name, among, rfl⟩ := List.mem_map.mp member
    obtain rfl | later := List.mem_cons.mp among
    · decide
    · exact (addressable name later).whole
  rw [routeOf, routedPath_encoded, resolve_ordinary ordinary, splitOn_pathText whole]
  simp [routedNames, Function.comp_def]

private theorem mem_of_routedNames {segments : List (List Char)} {path : List String}
    {name : String} (routed : routedNames segments = some path) (member : name ∈ path) :
    name.toList ∈ segments := by
  unfold routedNames at routed
  split at routed
  · split at routed
    · cases routed
      obtain ⟨segment, among, rfl⟩ := List.mem_map.mp member
      rw [String.toList_ofList]
      exact List.mem_cons_of_mem _ (List.mem_cons_of_mem _ among)
    · cases routed
  · cases routed

/-- What arrives has no slash in a segment. -/
theorem whole_of_routed {names path : List String} {name : String}
    (routed : routedPath (requestTarget (pathText (names.map encodeURIComponent))) = some path)
    (member : name ∈ path) : '/' ∉ name.toList := by
  rw [routedPath_encoded] at routed
  exact not_mem_of_mem_splitOn (mem_of_routedNames routed member)

/-- What arrives from names without slashes has no dots. -/
theorem ordinary_of_routed {names path : List String} {name : String}
    (whole : ∀ name ∈ names, '/' ∉ name.toList)
    (routed : routedPath (requestTarget (pathText (names.map encodeURIComponent))) = some path)
    (member : name ∈ path) : nameKind name = .ordinary := by
  have resolved : ∀ name ∈ resolve nameKind "" names,
      '/' ∉ name.toList ∧ nameKind name = .ordinary := by
    intro name member
    obtain rfl | ⟨among, ordinary⟩ := mem_resolve member
    · exact ⟨List.not_mem_nil, rfl⟩
    · exact ⟨whole name among, ordinary⟩
  have pieces : ∀ segment ∈ (resolve nameKind "" names).map String.toList, '/' ∉ segment := by
    intro segment member
    obtain ⟨name, among, rfl⟩ := List.mem_map.mp member
    exact (resolved name among).1
  rw [routedPath_encoded, splitOn_pathText pieces] at routed
  obtain empty | later := List.mem_cons.mp (mem_of_routedNames routed member)
  · rw [String.toList_eq_nil_iff.mp empty]
    rfl
  · obtain ⟨other, among, same⟩ := List.mem_map.mp later
    rw [← String.toList_injective same]
    exact (resolved other among).2

end Routing

section Sources

variable {repo plugin : String}

private theorem sourceAddress_eq : sourceAddress repo plugin =
    pathText (["api", "sources", repo, plugin].map encodeURIComponent) := by
  have api : encodeURIComponent "api" = "api".toList := by decide
  have sources : encodeURIComponent "sources" = "sources".toList := by decide
  have root : pathText [] = [] := rfl
  simp only [List.map_cons, List.map_nil, pathText_cons, api, sources, root]
  rw [List.append_nil (encodeURIComponent plugin)]
  rfl

private theorem checkAddress_eq : checkAddress repo plugin =
    pathText (["api", "sources", repo, plugin, "check"].map encodeURIComponent) := by
  have last : pathText (["check"].map encodeURIComponent) = "/check".toList := by decide
  have split : ["api", "sources", repo, plugin, "check"] =
      ["api", "sources", repo, plugin] ++ ["check"] := rfl
  rw [checkAddress, sourceAddress_eq, split, List.map_append, pathText_append, last]

/-- A route of a source comes from the path with its names. -/
theorem path_of_source {path : List String}
    (route : Route.ofPath path = some (.source repo plugin)) :
    path = ["sources", repo, plugin] ∧ repo ≠ "" ∧ plugin ≠ "" := by
  unfold Route.ofPath at route
  split at route <;> simp at route
  obtain ⟨nonempty, rfl, rfl⟩ := route
  exact ⟨rfl, nonempty⟩

private theorem path_of_check {path : List String}
    (route : Route.ofPath path = some (.check repo plugin)) :
    path = ["sources", repo, plugin, "check"] ∧ repo ≠ "" ∧ plugin ≠ "" := by
  unfold Route.ofPath at route
  split at route <;> simp at route
  obtain ⟨nonempty, rfl, rfl⟩ := route
  exact ⟨rfl, nonempty⟩

/-- A path that arrives with the names of its address has names that stand for themselves. -/
theorem addressable_of_routed {below : List String}
    (routed : routedPath (requestTarget (pathText (("api" :: below).map encodeURIComponent))) =
      some below) {name : String} (member : name ∈ below) (nonempty : name ≠ "") :
    Addressable name := by
  have whole : ∀ name ∈ "api" :: below, '/' ∉ name.toList := by
    intro name member
    obtain rfl | later := List.mem_cons.mp member
    · decide
    · exact whole_of_routed routed later
  exact {
    nonempty := nonempty
    whole := whole name (List.mem_cons_of_mem _ member)
    ordinary := ordinary_of_routed whole routed member }

private theorem sourceAddress_reaches_iff :
    routeOf (sourceAddress repo plugin) = some (.source repo plugin) ↔
      Addressable repo ∧ Addressable plugin := by
  rw [sourceAddress_eq]
  constructor
  · intro reached
    obtain ⟨path, routed, route⟩ := Option.bind_eq_some_iff.mp reached
    obtain ⟨rfl, filled⟩ := path_of_source route
    exact ⟨addressable_of_routed routed (by simp) filled.1,
      addressable_of_routed routed (by simp) filled.2⟩
  · rintro ⟨first, second⟩
    rw [routeOf_addressable (List.forall_mem_cons.mpr ⟨by decide, by simp [first, second]⟩)]
    exact if_pos ⟨first.nonempty, second.nonempty⟩

private theorem checkAddress_reaches_iff :
    routeOf (checkAddress repo plugin) = some (.check repo plugin) ↔
      Addressable repo ∧ Addressable plugin := by
  rw [checkAddress_eq]
  constructor
  · intro reached
    obtain ⟨path, routed, route⟩ := Option.bind_eq_some_iff.mp reached
    obtain ⟨rfl, filled⟩ := path_of_check route
    exact ⟨addressable_of_routed routed (by simp) filled.1,
      addressable_of_routed routed (by simp) filled.2⟩
  · rintro ⟨first, second⟩
    have check : Addressable "check" := by decide
    rw [routeOf_addressable (List.forall_mem_cons.mpr ⟨by decide, by simp [first, second, check]⟩)]
    exact if_pos ⟨first.nonempty, second.nonempty⟩

/-- A browser has nothing to encode in an address of encoded names. -/
theorem isPathChar_of_mem_pathText {names : List String} {c : Char}
    (member : c ∈ pathText (names.map encodeURIComponent)) : isPathChar c = true := by
  induction names with
  | nil => cases member
  | cons name names ih =>
      rw [List.map_cons, pathText_cons] at member
      obtain rfl | later := List.mem_cons.mp member
      · rfl
      · obtain first | rest := List.mem_append.mp later
        · exact (isPathChar_of_mem first).1
        · exact ih rest

variable (repo plugin)

/-- **The addresses of the sources.** A browser leaves the addresses that the script makes as
they are but for dots, and they lead to the routes of the very source if and only if both of
its names are nonempty, without a slash and no dots. -/
theorem addresses_reach_iff :
    (∀ c ∈ checkAddress repo plugin, isPathChar c = true) ∧
    (routeOf (sourceAddress repo plugin) = some (.source repo plugin) ↔
      Addressable repo ∧ Addressable plugin) ∧
    (routeOf (checkAddress repo plugin) = some (.check repo plugin) ↔
      Addressable repo ∧ Addressable plugin) :=
  ⟨fun _ member => isPathChar_of_mem_pathText (checkAddress_eq ▸ member),
    sourceAddress_reaches_iff, checkAddress_reaches_iff⟩

end Sources

/-- A name with a space, an accent and a percent sign arrives as it is. -/
example : routeOf (sourceAddress "a é%2F" "..x") = some (.source "a é%2F" "..x") := by
  decide

end BiothingsPulse.Dashboard
