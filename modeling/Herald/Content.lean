import Herald.Template
import Herald.Registry
/-!
Content for one notification and one channel: the parameters of the user, the channel, the
notification and the factories, each over those before it, and the template filled with them.
-/

set_option autoImplicit false

namespace Herald

abbrev Factory := Notification → Preferences → Except RenderError Bag

structure ContentService where
  catalog : Catalog
  factories : Registry Mark Factory

namespace ContentService

/-- What the factories contribute, in their order, over `b`; the first failure counts. -/
def addParams (n : Notification) (p : Preferences) : List Factory → Bag → Except RenderError Bag
  | [], b => .ok b
  | f :: fs, b =>
    match f n p with
    | .error e => .error e
    | .ok c => addParams n p fs (b.merge c)

def mergeParams (s : ContentService) (n : Notification) (p : Preferences) (c : ChannelPreferences) :
    Except RenderError Bag :=
  addParams n p s.factories.toList (((Bag.empty.merge p.params).merge c.params).merge n.params)

def produce (s : ContentService) (n : Notification) (p : Preferences) (c : ChannelPreferences) :
    Except RenderError Dispatch :=
  match s.mergeParams n p c with
  | .error e => .error e
  | .ok b =>
    match s.catalog.render n.templateKey c.version b with
    | .error e => .error e
    | .ok m => .ok ⟨m, b⟩

end ContentService

end Herald
