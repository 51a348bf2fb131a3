import TenantSearch.Text.Alphanumeric
import TenantSearch.Text.Blank

/-! Words for indexing: the alphanumeric runs of a text. -/
namespace TenantSearch.Text

def words (text : Text) : List Text := runs isAlphanumeric text

end TenantSearch.Text
