import Yardstick.Schema.Catalog
import Yardstick.Session.Documents

/-!
# Directories of catalogs

Each JSON file of a directory is a catalog; one that names no locale is for the locale that its file
is named for.
-/

namespace Yardstick

/-- The members of a document with a locale among them. -/
def withLocale (locale : String) (ms : List (String × Json)) : List (String × Json) :=
  if (ms.lookup Catalog.localeKey.camel).isSome then ms
  else ms ++ [(Catalog.localeKey.camel, .str locale)]

/-- The catalog in a file. A listed path is seen from the base once more. -/
def Store.readCatalog (s : Store) (base : Base) (p : Path) : Except Failure Catalog := do
  let ms ← s.readObject (base.resolve p)
  (Catalog.ofMembers (withLocale p.stem ms)).mapError (.invalidCatalog p.text)

/-- Reads a catalog and notes it. -/
def Work.readCatalog (base : Base) (p : Path) : Work Catalog := do
  let c ← reading (·.readCatalog base p)
  note .info "translation_catalog_loaded"
    [("path", .str p.text), ("locale", .str c.locale), ("messages", .int c.messages.size),
     ("contexts", .int c.contexts.size)]
  return c

/-- The catalogs of a directory, by file name. -/
def Work.readCatalogs (base : Base) (directory : Path) : Work (List Catalog) := do
  (← reading (·.listJson (base.resolve directory))).mapM (readCatalog base)

end Yardstick
