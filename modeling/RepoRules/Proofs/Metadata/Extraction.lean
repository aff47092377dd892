import RepoRules.Metadata.Extract
import RepoRules.Proofs.Rules.Variables

/-!
Extraction of metadata: which pages it asks for, and which fields it gives. All names of fields are
in normal form and occur once, wherever the fields come from, so that they can be entered among
variables.
-/

namespace RepoRules

open VariableTable

namespace OrderedMap

theorem entries_foldl {α : Type} {step : OrderedMap String → α → OrderedMap String}
    (items : List α)
    (keeps : ∀ map, ∀ item ∈ items, Entries map.entries → Entries (step map item).entries)
    {map : OrderedMap String} (valid : Entries map.entries) :
    Entries (items.foldl step map).entries := by
  induction items generalizing map with
  | nil => exact valid
  | cons item rest induction =>
      refine induction ?_ (keeps map item List.mem_cons_self valid)
      exact fun map other member => keeps map other (List.mem_cons_of_mem _ member)

theorem entries_extend_new {map : OrderedMap String} (valid : Entries map.entries)
    {entries : List (String × String)} (others : Entries entries) :
    Entries (map.extendNew entries).entries := by
  refine entries_foldl entries ?_ valid
  intro map entry member held
  split
  · exact held
  · exact entries_insert held (others.normal entry.1 (List.mem_map_of_mem member)) entry.2

theorem eq_empty_of_is_empty {α : Type} {map : OrderedMap α} (empty : map.isEmpty = true) :
    map = .empty := by
  obtain ⟨entries⟩ := map
  cases entries with
  | nil => rfl
  | cons => cases empty

end OrderedMap

open OrderedMap

theorem Markup.entries_of_page (page : String) : Entries (fieldsOfPage page).entries := by
  refine entries_foldl _ ?_ entries_empty
  intro fields groups _ valid
  dsimp only
  split
  · exact valid
  · exact entries_insert valid (normalize_normalize _) _

theorem Headers.entries_of_lines (parser : Pattern) (lines : List String) :
    Entries (fieldsOf parser lines).entries := by
  refine entries_foldl lines ?_ entries_empty
  intro fields line _ valid
  unfold addField
  split
  · dsimp only
    split
    · exact valid
    · exact entries_insert valid (normalize_normalize _) _
  · exact valid

theorem Headers.entries_of_scan {settings : MetadataSettings} {body : String} {found : HeaderMatch}
    (scanned : scan settings body = some found) : Entries found.fields.entries := by
  simp only [scan, Option.bind_eq_bind, Option.bind_eq_some_iff, Option.pure_def,
    Option.some.injEq] at scanned
  obtain ⟨_, _, parser, _, _, _, rfl⟩ := scanned
  exact Headers.entries_of_lines parser _

namespace Metadata

section Sources

variable (page : String → Option String) (settings : MetadataSettings) (body : String)

def ofBody : Metadata :=
  extract (m := Id) page settings body .empty

def pageFields (url : Option String) : Metadata :=
  match url.bind page with
  | some text => Markup.fieldsOfPage text
  | none => .empty

def headerFields : Metadata :=
  match Headers.scan settings body with
  | some found => found.fields
  | none => .empty

def headerUrl? : Option String :=
  (Headers.scan settings body).bind fun found =>
    Headers.contentUrl? settings.contentUrls ("\n".intercalate found.headerLines)

def bodyUrl? : Option String :=
  Headers.contentUrl? settings.contentUrls body

def announced : Metadata :=
  (headerFields settings body).extendNew (pageFields page (headerUrl? settings body)).entries

/-- The addresses that are asked for the fields of a body. -/
def askedUrls : List String :=
  (headerUrl? settings body).toList ++
    if (announced page settings body).isEmpty then (bodyUrl? settings body).toList else []

def fieldsOf : Metadata :=
  if (announced page settings body).isEmpty then pageFields page (bodyUrl? settings body)
  else announced page settings body

variable {page settings body} {m : Type → Type} [Monad m]
  {fetch : String → m (Option String)} {note : String → m Unit}

theorem extract_of_known {known : Metadata} (filled : known.isEmpty = false) :
    extract fetch settings body known = pure known := by
  rw [extract, filled]
  rfl

variable [LawfulMonad m]

theorem of_page_eq (answers : ∀ url, fetch url = do note url; return page url) (url : String) :
    ofPage fetch url = (do note url; return pageFields page (some url)) := by
  unfold ofPage
  rw [answers, bind_assoc]
  refine bind_congr fun _ => ?_
  rw [pure_bind]
  cases found : page url with
  | none => simp only [pageFields, Option.bind_some, found]
  | some text => simp only [pageFields, Option.bind_some, found]

theorem of_headers_eq (answers : ∀ url, fetch url = do note url; return page url) :
    ofHeaders fetch settings body =
      (do
        forM (headerUrl? settings body).toList note
        return announced page settings body) := by
  unfold ofHeaders announced headerFields headerUrl?
  cases Headers.scan settings body with
  | none =>
      rw [Option.bind_none, Option.toList_none, List.forM_nil, pure_bind]
      rfl
  | some found =>
      dsimp only [Option.bind_some]
      cases Headers.contentUrl? settings.contentUrls ("\n".intercalate found.headerLines) with
      | none =>
          rw [Option.toList_none, List.forM_nil, pure_bind]
          rfl
      | some url =>
          dsimp only
          rw [of_page_eq answers]
          simp

/-- Whatever else fetching does, extraction asks for these addresses and gives these fields. -/
theorem extract_eq (answers : ∀ url, fetch url = do note url; return page url) :
    extract fetch settings body .empty =
      (do
        forM (askedUrls page settings (Text.normalizeLineEnds body)) note
        return fieldsOf page settings (Text.normalizeLineEnds body)) := by
  have unknown : ¬(!(OrderedMap.empty : Metadata).isEmpty) = true := by decide
  unfold extract
  rw [if_neg unknown]
  dsimp only
  generalize Text.normalizeLineEnds body = text
  rw [of_headers_eq answers, bind_assoc]
  unfold askedUrls fieldsOf
  rw [List.forM_append, bind_assoc]
  refine bind_congr fun _ => ?_
  rw [pure_bind]
  cases empty : (announced page settings text).isEmpty with
  | false => simp
  | true =>
      have nothing := OrderedMap.eq_empty_of_is_empty empty
      unfold bodyUrl?
      cases Headers.contentUrl? settings.contentUrls text with
      | none => simp [nothing, pageFields]
      | some url => simpa using of_page_eq answers url

variable (page settings body)

/-- What extraction asks for and gives does not depend on what else fetching does. -/
theorem exists_extract_eq (known : Metadata) : ∃ (urls : List String) (fields : Metadata),
    ∀ {m : Type → Type} [Monad m] [LawfulMonad m] {fetch : String → m (Option String)}
      {note : String → m Unit}, (∀ url, fetch url = do note url; return page url) →
      extract fetch settings body known = (do forM urls note; return fields) := by
  cases empty : known.isEmpty with
  | false =>
      refine ⟨[], known, fun _ => ?_⟩
      rw [extract_of_known empty, List.forM_nil, pure_bind]
  | true =>
      rw [OrderedMap.eq_empty_of_is_empty empty]
      exact ⟨_, _, fun answers => extract_eq answers⟩

theorem of_body_eq : ofBody page settings body =
    fieldsOf page settings (Text.normalizeLineEnds body) :=
  @extract_eq page settings body Id _ page (fun _ => pure ()) _ fun _ => rfl

theorem entries_of_page_fields (url : Option String) : Entries (pageFields page url).entries := by
  unfold pageFields
  split
  · exact Markup.entries_of_page _
  · exact entries_empty

theorem entries_of_announced : Entries (announced page settings body).entries := by
  refine entries_extend_new ?_ (entries_of_page_fields page _)
  unfold headerFields
  split
  · rename_i found scanned
    exact Headers.entries_of_scan scanned
  · exact entries_empty

theorem entries_of_body : Entries (ofBody page settings body).entries := by
  rw [of_body_eq, fieldsOf]
  split
  · exact entries_of_page_fields page _
  · exact entries_of_announced page settings _

theorem of_body_unset {settings : MetadataSettings} (headers : settings.headers = [])
    (contentUrls : settings.contentUrls = []) (body : String) :
    ofBody page settings body = .empty := by
  have scanned (text : String) : Headers.scan settings text = none := by
    rw [Option.eq_none_iff_forall_ne_some]
    intro found scanned
    simp only [Headers.scan, headers, Headers.findSet?, Option.bind_eq_bind,
      Option.bind_eq_some_iff] at scanned
    obtain ⟨_, _, _, _, _, none, _⟩ := scanned
    cases none
  have unlinked (text : String) : bodyUrl? settings text = none := by
    rw [bodyUrl?, contentUrls]
    rfl
  have silent (text : String) : announced page settings text = .empty := by
    rw [announced, headerFields, headerUrl?, scanned]
    rfl
  rw [of_body_eq, fieldsOf, silent, unlinked]
  rfl

end Sources

end Metadata

end RepoRules
