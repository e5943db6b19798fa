import FontPreferences.Key
import FontPreferences.Main
import FontPreferences.Screen.Draw
import FontPreferences.Slider.Bar
import FontPreferences.Proofs.App.Browsing
import FontPreferences.Proofs.App.Following
import FontPreferences.Proofs.App.History
import FontPreferences.Proofs.App.Keys
import FontPreferences.Proofs.App.Locking
import FontPreferences.Proofs.App.Pinned
import FontPreferences.Proofs.Catalog.Families
import FontPreferences.Proofs.Exchange.Selection
import FontPreferences.Proofs.Json.Document
import FontPreferences.Proofs.Policy.Applying
import FontPreferences.Proofs.Preference.Loading
import FontPreferences.Proofs.Preference.Mirror
import FontPreferences.Proofs.Preference.SavedValues
import FontPreferences.Proofs.Session.Hidden
import FontPreferences.Proofs.Session.RoundTrip
import FontPreferences.Proofs.Session.Saving
import FontPreferences.Proofs.Command.Opening
import FontPreferences.Proofs.Command.Assigning
import FontPreferences.Proofs.Page.Resyncing
import FontPreferences.Proofs.Page.Writes
import FontPreferences.Proofs.Preference.Rows
import FontPreferences.Proofs.Preference.Calls
import FontPreferences.Proofs.Preference.Merging
import FontPreferences.Proofs.Slider.Bar
import FontPreferences.Proofs.Slider.Blurring
import FontPreferences.Proofs.Slider.Counting
import FontPreferences.Proofs.Slider.Hooks
import FontPreferences.Proofs.Slider.Walking
import FontPreferences.Proofs.Slider.Setting
import FontPreferences.Proofs.Screen.ListRow
