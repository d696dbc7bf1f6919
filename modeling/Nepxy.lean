import Nepxy.Js.JsString
import Nepxy.Js.UnicodeCase
import Nepxy.Js.Json
import Nepxy.Js.JsonStringify
import Nepxy.Js.JsonFuel
import Nepxy.Js.EventLoop
import Nepxy.Canvas.Catalog
import Nepxy.Canvas.FlagEmoji
import Nepxy.Canvas.CurrencyDropdown
import Nepxy.Canvas.WelcomeScreen
import Nepxy.Canvas.SelfTests
import Nepxy.Site.ContactRoute
import Nepxy.Site.ContactForm
import Nepxy.Site.ContactProtocol
