import FormPress.Form.Basic
import FormPress.Markup.Basic
import FormPress.Script.Code
import FormPress.Text.Percent

/-!
# Tracking tags

The tags that tracking networks want in the head of a page: for each network that the form names a
script with the author's id, and markup of the author. Each part ends in a line break.
-/

namespace FormPress.Pixels

open Script Markup

/-- A script on lines of its own. -/
def scriptOf (part : List Code) : Markup :=
  .element "script" [] [.raw ("\n" ++ Script.write part ++ "\n")]

/-- The loader of the first network and its two calls. -/
def snapScript (id : String) : List Code :=
  [code ("(function(e,t,n)\x7bif(e.snaptr)return;var a=e.snaptr=function()" ++
     "\x7ba.handleRequest?a.handleRequest.apply(a,arguments):a.queue.push(arguments)\x7d;" ++
     "a.queue=[];var s=\"script\";var r=t.createElement(s);r.async=!0;r.src=n;" ++
     "var u=t.getElementsByTagName(s)[0];u.parentNode.insertBefore(r,u);\x7d)" ++
     "(window,document,\"https://sc-static.net/scevent.min.js\");"),
   .line [.code "snaptr(\"init\", ", quoted id, .code ", \x7b\x7d);"],
   code "snaptr(\"track\", \"PAGE_VIEW\");"]

/-- The loader of the second network and its two calls. -/
def metaScript (id : String) : List Code :=
  [code ("!function(f,b,e,v,n,t,s)\x7bif(f.fbq)return;n=f.fbq=function()" ++
     "\x7bn.callMethod?n.callMethod.apply(n,arguments):n.queue.push(arguments)\x7d;" ++
     "if(!f._fbq)f._fbq=n;n.push=n;n.loaded=!0;n.version=\"2.0\";n.queue=[];" ++
     "t=b.createElement(e);t.async=!0;t.src=v;s=b.getElementsByTagName(e)[0];" ++
     "s.parentNode.insertBefore(t,s)\x7d" ++
     "(window,document,\"script\",\"https://connect.facebook.net/en_US/fbevents.js\");"),
   .line [.code "fbq(\"init\", ", quoted id, .code ");"],
   code "fbq(\"track\", \"PageView\");"]

/-- The image for visitors without scripts. -/
def metaImage (id : String) : Markup :=
  .element "noscript" []
    [.void "img"
      [attr "height" "1", attr "width" "1", attr "style" "display:none", attr "alt" "",
       attr "src"
        ("https://www.facebook.com/tr?id=" ++ Text.Percent.query id ++
          "&ev=PageView&noscript=1")]]

/-- The loader of the advertisement network. -/
def googleLoader (id : String) : Markup :=
  .element "script"
    [bare "async",
     attr "src" ("https://www.googletagmanager.com/gtag/js?id=" ++ Text.Percent.query id)] []

/-- The calls of the advertisement network. -/
def googleScript (id : String) : List Code :=
  [code "window.dataLayer = window.dataLayer || [];",
   code "function gtag()\x7bdataLayer.push(arguments);\x7d",
   code "gtag(\"js\", new Date());",
   .line [.code "gtag(\"config\", ", quoted id, .code ");"]]

def tags (p : Pixels) : List Markup :=
  ((given? p.snapPixelId).toList.map fun id => scriptOf (snapScript id)) ++
    ((given? p.metaPixelId).toList.flatMap fun id => [scriptOf (metaScript id), metaImage id]) ++
    ((given? p.googleAdsId).toList.flatMap fun id => [googleLoader id, scriptOf (googleScript id)])
    ++ ((given? p.customScripts).toList.map Markup.raw)

/-- The tags on lines of their own. -/
def markup (p : Pixels) : List Markup :=
  p.tags.flatMap fun m => [m, newline 0]

end FormPress.Pixels
