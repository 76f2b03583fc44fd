/-!
# Classes of the platform

Classes that a platform has built in, of the language itself and of browsers.
They make their objects in ways of their own, so that a function in the place
of a class cannot extend them.

- `isPlatformClass`: whether a name is that of such a class.
-/

namespace ScriptHost

/-- The classes of the language itself. -/
def languageClasses : List String :=
  ["AggregateError", "Array", "ArrayBuffer", "Atomics", "BigInt", "BigInt64Array",
   "BigUint64Array", "Boolean", "DataView", "Date", "Error", "EvalError", "FinalizationRegistry",
   "Float32Array", "Float64Array", "Function", "Infinity", "Int16Array", "Int32Array",
   "Int8Array", "JSON", "Map", "Math", "NaN", "Number", "Object", "Promise", "Proxy",
   "RangeError", "ReferenceError", "Reflect", "RegExp", "Set", "SharedArrayBuffer", "String",
   "Symbol", "SyntaxError", "TypeError", "URIError", "Uint16Array", "Uint32Array", "Uint8Array",
   "Uint8ClampedArray", "WeakMap", "WeakRef", "WeakSet"]

/-- The classes of the elements of a page. -/
def elementClasses : List String :=
  ["Anchor", "Area", "Audio", "BR", "Base", "Body", "Button", "Canvas", "DList", "Data",
   "DataList", "Details", "Dialog", "Directory", "Div", "", "Embed", "FieldSet", "Font", "Form",
   "Frame", "FrameSet", "HR", "Head", "Heading", "Html", "IFrame", "Image", "Input", "LI",
   "Label", "Legend", "Link", "Map", "Marquee", "Media", "Menu", "Meta", "Meter", "Mod", "OList",
   "Object", "OptGroup", "Option", "Output", "Paragraph", "Param", "Picture", "Pre", "Progress",
   "Quote", "Script", "Select", "Shadow", "Slot", "Source", "Span", "Style", "TableCaption",
   "TableCell", "TableCol", "Table", "TableRow", "TableSection", "Template", "TextArea", "Time",
   "Title", "Track", "UList", "Unknown", "Video"].map fun kind => "HTML" ++ kind ++ "Element"

/-- The other classes of browsers. -/
def browserClasses : List String :=
  ["AbortController", "AbortSignal", "AnalyserNode", "Animation", "AnimationEvent", "Attr",
   "Audio", "AudioBuffer", "AudioContext", "AudioNode", "AudioParam", "BaseAudioContext", "Blob",
   "BroadcastChannel", "CDATASection", "CSSRule", "CSSStyleSheet", "Cache", "CacheStorage",
   "CanvasGradient", "CanvasPattern", "CanvasRenderingContext2D", "CharacterData",
   "ClipboardEvent", "CloseEvent", "Comment", "CompositionEvent", "CustomEvent", "DOMError",
   "DOMException", "DOMImplementation", "DOMMatrix", "DOMParser", "DOMPoint", "DOMRect",
   "DOMStringList", "DOMStringMap", "DOMTokenList", "DataTransfer", "Document",
   "DocumentFragment", "DocumentType", "DragEvent", "Element", "ErrorEvent", "Event",
   "EventSource", "EventTarget", "File", "FileList", "FileReader", "FocusEvent", "FontFace",
   "FormData", "Gamepad", "HTMLAllCollection", "HTMLCollection", "HTMLDocument",
   "HTMLFormControlsCollection", "HTMLOptionsCollection", "HashChangeEvent", "Headers", "History",
   "IDBCursor", "IDBDatabase", "IDBFactory", "IDBIndex", "IDBKeyRange", "IDBObjectStore",
   "IDBRequest", "IDBTransaction", "Image", "ImageBitmap", "ImageData", "InputEvent",
   "IntersectionObserver", "KeyboardEvent", "Location", "MediaQueryList", "MediaRecorder",
   "MediaSource", "MediaStream", "MessageChannel", "MessageEvent", "MessagePort", "MimeType",
   "MouseEvent", "MutationEvent", "MutationObserver", "MutationRecord", "NamedNodeMap",
   "Navigator", "Node", "NodeFilter", "NodeIterator", "NodeList", "Notification", "Option",
   "OscillatorNode", "PageTransitionEvent", "Path2D", "Performance", "PerformanceEntry",
   "PerformanceObserver", "Plugin", "PointerEvent", "PopStateEvent", "ProcessingInstruction",
   "ProgressEvent", "PromiseRejectionEvent", "RTCPeerConnection", "Range", "ReadableStream",
   "Request", "ResizeObserver", "Response", "SVGElement", "SVGSVGElement", "Screen", "Selection",
   "ServiceWorker", "ShadowRoot", "SharedWorker", "Storage", "StorageEvent", "StyleSheet", "Text",
   "TextDecoder", "TextEncoder", "TextEvent", "TextMetrics", "TimeRanges", "Touch", "TouchEvent",
   "TouchList", "TransitionEvent", "TreeWalker", "UIEvent", "URL", "URLSearchParams",
   "ValidityState", "VisualViewport", "WebGLRenderingContext", "WebSocket", "WheelEvent",
   "Window", "Worker", "WritableStream", "XMLDocument", "XMLHttpRequest",
   "XMLHttpRequestEventTarget", "XMLHttpRequestUpload", "XMLSerializer", "XPathEvaluator",
   "XPathExpression", "XPathResult", "XSLTProcessor"]

/-- Whether a name is that of a class of the platform. -/
def isPlatformClass (name : String) : Bool :=
  languageClasses.contains name || elementClasses.contains name || browserClasses.contains name

end ScriptHost
