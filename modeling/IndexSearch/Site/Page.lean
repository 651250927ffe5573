import IndexSearch.Search.Hit
import IndexSearch.Site.Markup
import IndexSearch.Text.Numeral

/-!
# Pages

The search page, with or without the outcome of a search, and the page for a file that is missing.
Everything in a page that is not fixed is escaped.
-/

namespace IndexSearch

def staticPrefix : Text :=
  "/static/".toList

/-- A line of a result list: where it leads, how it reads and the rank behind it. -/
structure Link where
  href : Text
  label : Text
  rank : UInt64
deriving DecidableEq, Repr

namespace Hit

def relativeName (crawlRoot : Text) (hit : Hit) : Text :=
  if crawlRoot.isPrefixOf hit.name then hit.name.drop crawlRoot.length else hit.name

/-- A document on the web is linked to under its own name, a local one as a static file. -/
def link (crawlRoot : Text) (hit : Hit) : Link :=
  match hit.source with
  | .web => ⟨hit.name, hit.name, hit.rank⟩
  | .localFile =>
    let name := hit.relativeName crawlRoot
    ⟨staticPrefix ++ name, name, hit.rank⟩

end Hit

structure Results where
  terms : Text
  links : List Link
deriving DecidableEq, Repr

namespace Page

def opening : Text := [
  "<html><head><title>shard-search</title></head>\n",
  "<body>\n",
  "<center style=\"font-size:500%;\">\n",
  "<span style=\"color:steelblue;\">shard</span>",
  "<span style=\"color:darkorange;\">search</span>\n",
  "</center>\n",
  "<p>\n",
  "<div style=\"height:20px;\"></div>\n",
  "<center>\n",
  "<form action=\"/query\" method=\"get\">\n",
  "<input type=\"text\" size=30 name=\"terms\" />\n",
  "<input type=\"submit\" value=\"Search\" />\n",
  "</form>\n",
  "</center><p>\n"].flatMap String.toList

def closing : Text :=
  "</body>\r\n</html>\r\n".toList

def item (link : Link) : Text :=
  "<li>\n<a href=\"".toList ++ Markup.escape link.href
    ++ "\">".toList ++ Markup.escape link.label
    ++ "</a> [".toList ++ Numeral.render link.rank.toNat
    ++ "]<br>\n</li>\n".toList

def notice (terms : Text) : Text :=
  "<p><br>\r\nNo results found for <b>".toList ++ Markup.escape terms
    ++ "</b><p>\r\n\r\n".toList

def summary (count : Nat) (terms : Text) : Text :=
  "<p><br>\r\n".toList ++ Numeral.render count
    ++ (if 1 < count then " results found for <b>".toList else " result found for <b>".toList)
    ++ Markup.escape terms ++ "</b><p>\r\n\r\n".toList

def results (found : Results) : Text :=
  if found.links.isEmpty then notice found.terms
  else summary found.links.length found.terms
    ++ "<ul>\r\n".toList ++ found.links.flatMap item ++ "</ul>\r\n".toList

def search (found : Option Results) : Text :=
  opening ++ (found.map results).getD [] ++ closing

def missing (name : Text) : Text :=
  "<html><body>Couldn't find file \"".toList ++ Markup.escape name
    ++ "\"</body></html>\n".toList

end Page

end IndexSearch
