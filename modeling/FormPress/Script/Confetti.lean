import FormPress.Script.Code

/-!
# Confetti

The part of the page's script that celebrates a submission.
-/

namespace FormPress.Script

/-- Colours, number and duration of the pieces. -/
def confettiSettings : List Code :=
  [code ("var CONFETTI_COLORS = [\"#6366f1\", \"#818cf8\", \"#a5b4fc\", \"#22d3ee\", " ++
     "\"#fbbf24\", \"#f87171\", \"#4ade80\", \"#fb923c\", \"#e879f9\", \"#38bdf8\"];"),
   code "var CONFETTI_PIECES = 180;",
   code "var CONFETTI_DURATION = 3800;"]

/-- Let the pieces fall. -/
def launchConfetti : List Code :=
  [function "launchConfetti()" [
     code "var canvas = document.createElement(\"canvas\");",
     code ("canvas.style.cssText = " ++
       "\"position:fixed;top:0;left:0;width:100vw;height:100vh;" ++
         "pointer-events:none;z-index:99999;\";"),
     code "document.body.appendChild(canvas);",
     code "var width = canvas.width = window.innerWidth;",
     code "var height = canvas.height = window.innerHeight;",
     code "var ctx = canvas.getContext(\"2d\");",
     block "if (!ctx) " [
       code "canvas.remove();",
       code "return;"] [],
     code ("var origins = [\x7b x: width * 0.25, y: height * 0.4 \x7d, \x7b x: width * 0.75, " ++
       "y: height * 0.4 \x7d, \x7b x: width * 0.5, y: height * 0.35 \x7d];"),
     code "var pieces = [];",
     block "for (var i = 0; i < CONFETTI_PIECES; i++) " [
       code "var origin = origins[i % origins.length];",
       code "var angle = (Math.random() * 2 - 1) * Math.PI * 0.65 - Math.PI / 2;",
       code "var speed = (Math.random() * 14 + 6) * (Math.random() * 0.5 + 0.75);",
       block "pieces.push(" [
         code "x: origin.x + (Math.random() - 0.5) * 20,",
         code "y: origin.y,",
         code "vx: Math.cos(angle) * speed,",
         code "vy: Math.sin(angle) * speed,",
         code "w: Math.random() * 11 + 4,",
         code "h: Math.random() * 5 + 3,",
         code "color: CONFETTI_COLORS[Math.floor(Math.random() * CONFETTI_COLORS.length)],",
         code "rotation: Math.random() * Math.PI * 2,",
         code "spin: (Math.random() - 0.5) * 0.22,",
         code "round: Math.random() < 0.35,",
         code "opacity: 1"] ");"] [],
     blank,
     code "var start = null;",
     function "frame(ts)" [
       code "if (start === null) start = ts;",
       code "var elapsed = ts - start;",
       code "ctx.clearRect(0, 0, width, height);",
       block "pieces.forEach(function (p) " [
         code "p.vy += 0.38;",
         code "p.vx *= 0.992;",
         code "p.x += p.vx;",
         code "p.y += p.vy;",
         code "p.rotation += p.spin;",
         block "if (elapsed > CONFETTI_DURATION * 0.55) " [
           code ("p.opacity = Math.max(0, 1 - (elapsed - CONFETTI_DURATION * 0.55) / " ++
             "(CONFETTI_DURATION * 0.45));")] [],
         code "ctx.save();",
         code "ctx.globalAlpha = p.opacity;",
         code "ctx.translate(p.x, p.y);",
         code "ctx.rotate(p.rotation);",
         code "ctx.fillStyle = p.color;",
         .block [
           ("if (p.round) ", [
             code "ctx.beginPath();",
             code "ctx.arc(0, 0, p.w / 2, 0, Math.PI * 2);",
             code "ctx.fill();"]),
           (" else ", [
             code "ctx.fillRect(-p.w / 2, -p.h / 2, p.w, p.h);"])] [],
         code "ctx.restore();"] ");",
       .block [
         ("if (elapsed < CONFETTI_DURATION) ", [
           code "requestAnimationFrame(frame);"]),
         (" else ", [
           code "canvas.remove();"])] []],
     code "requestAnimationFrame(frame);"]]

def confetti : List Code :=
  paragraphs [confettiSettings, launchConfetti]

end FormPress.Script
